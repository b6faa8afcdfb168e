import Stencil.Host.Objects
import Stencil.Proofs.Calls.Builtin
import Stencil.Proofs.Calls.Overloads
import Stencil.Proofs.Calls.Uses
import Stencil.Proofs.Equality

/-!
# Receivers are what their classes are made for

An object is a handle. Where there is data behind it that its class can see, it is backed
(`Host.Backs`), and so are all objects that have been made (`Host.Objects.backs`). As long as the bodies
of a host give back values with backed objects only, evaluation comes to no others: from bindings with
such values it comes to such a value and leaves such bindings (`Node.sound`). So every member that is
used sees its receiver, and finds one value for each of its parameters (`Use.Proper`).
-/

namespace Stencil

/-! ## Objects with data behind them -/

/-- The object is the value, or is found among the items of a list. -/
inductive Value.Holds (o : Object) : Value → Prop
  | object : Holds o (.object o)
  | item {items : List Value} {v : Value} : v ∈ items → Holds o v → Holds o (.list items)

/-- There is data behind the handle that the class of the object sees. -/
def Host.Backs (host : Host) (o : Object) : Prop :=
  ∃ c data, host.class? (.object o) = some c ∧ c.view (.object o) = some data

/-- The objects in a value are backed. -/
def Value.Backed (host : Host) (v : Value) : Prop := ∀ o, v.Holds o → host.Backs o

/-- The objects in all values are backed. -/
def Bindings.Backed (host : Host) (b : Bindings) : Prop :=
  ∀ name v, b.get? name = some v → v.Backed host

/-- For backed values the members of a class give back backed values. -/
structure Class.GivesBacked (host : Host) (c : Class) : Prop where
  property : ∀ name get receiver data, (name, get) ∈ c.properties → receiver.Backed host →
    c.view receiver = some data → (get data).Backed host
  method : ∀ m ∈ c.methods, ∀ receiver data args bound v, receiver.Backed host →
    c.view receiver = some data → (∀ arg ∈ args, arg.Backed host) → m.bind args = .ok bound →
    m.body data bound = .ok v → v.Backed host
  items : ∀ items receiver data, c.items? = some items → receiver.Backed host →
    c.view receiver = some data → ∀ v ∈ items data, v.Backed host

/-- So do the classes and the procedures of a host. -/
structure Host.GivesBacked (host : Host) : Prop where
  members : ∀ number, (host.classOf number).GivesBacked host
  procedure : ∀ number args v, (∀ arg ∈ args, arg.Backed host) → host.call number args = .ok v →
    v.Backed host

variable {host : Host} {v receiver : Value} {values : List Value} {b b' : Bindings} {name : String}

namespace Value

private theorem backed_list : (Value.list values).Backed host ↔ ∀ v ∈ values, v.Backed host := by
  constructor
  · exact fun h v hv o ho => h o (.item hv ho)
  · intro h o ho
    cases ho with
    | item hv ho => exact h _ hv o ho

/-- What is neither an object nor a list holds no object. -/
theorem backed_of_kind (h : v.kind ≠ .object) (h' : v.kind ≠ .list) : v.Backed host := by
  intro o ho
  cases ho with
  | object => exact absurd rfl h
  | item => exact absurd rfl h'

end Value

namespace Bindings

/-- A table stays backed as its names are set to values that are. -/
theorem Backed.set (hb : b.Backed host) (hv : v.Backed host) (h : b.set name v = .ok b') :
    b'.Backed host := by
  intro other w hw
  by_cases hother : other = name
  · rw [hother, get?_of_set h, Option.some.injEq] at hw
    exact hw ▸ hv
  · rw [get?_of_same_entry (entry?_of_set h hother)] at hw
    exact hb other w hw

end Bindings

/-! ## Objects as they are made -/

namespace Host.Objects

variable {made : host.Objects} {o : Object}

/-- The object is among those that have been made, or it is a text helper. -/
inductive Includes (made : host.Objects) : Object → Prop
  | object {before later : host.Objects} {number : Nat} {data : (host.classOf number).Data}
      {display : String} : (before.make number data display).2 ++ later = made →
      Includes made (before.make number data display).1
  | textHelper (number : Nat) : Includes made (TextHelper.object number)

/-- **A class sees in an object what it made it of**, whatever else is made later. -/
theorem data?_make (made : host.Objects) (number : Nat) (data : (host.classOf number).Data)
    (display : String) (later : host.Objects) :
    data? ((made.make number data display).2 ++ later) number
      (.object (made.make number data display).1) = some data := by
  have hget : (made ++ [⟨number, data⟩] ++ later)[made.length]? = some ⟨number, data⟩ := by
    rw [List.append_assoc, List.getElem?_append_right (Nat.le_refl _), Nat.sub_self]
    rfl
  simp only [make, data?, hget, dite_true]

/-- **Objects that have been made are backed.** -/
theorem backs (h : made.Includes o) : (host.withObjects made).Backs o := by
  cases h with
  | @object before later number data display hmade =>
    refine ⟨(host.withObjects made).classOf number, data, rfl, ?_⟩
    have hdata := data?_make before number data display later
    rw [hmade] at hdata
    exact hdata
  | textHelper number => exact ⟨TextHelper.helperClass host.patterns, (), rfl, rfl⟩

end Host.Objects

/-- So are bindings in which all objects are such. -/
theorem Bindings.backed_of_made {made : host.Objects}
    (h : ∀ name v o, b.get? name = some v → v.Holds o → made.Includes o) :
    b.Backed (host.withObjects made) :=
  fun name v hv o ho => Host.Objects.backs (h name v o hv ho)

namespace Class

variable {c : Class}

/-- A class of the library gives back only what it was given, or plain values. -/
private theorem IsBuiltin.givesBacked {patterns : Patterns} (hc : c.IsBuiltin patterns) :
    c.GivesBacked host where
  property name get receiver data hget _ _ := by
    rcases hc with ⟨kind, hkind⟩ | rfl
    · cases kind <;> cases hkind
      case inl.text.refl =>
        cases List.mem_singleton.mp hget
        exact Value.backed_of_kind nofun nofun
      case inl.list.refl =>
        cases List.mem_singleton.mp hget
        exact Value.backed_of_kind nofun nofun
      all_goals cases hget
    · cases hget
  method m hm receiver data args bound v _ _ _ hbind hv := by
    rcases (hc.keepsTo data hm hbind).plain v hv with hkind | hkind | hkind <;>
      exact Value.backed_of_kind (by rw [hkind]; exact nofun) (by rw [hkind]; exact nofun)
  items items receiver data hitems hreceiver hview := by
    -- only lists have items, and these are values of the list itself
    rcases hc with ⟨kind, hkind⟩ | rfl
    · cases kind <;> cases hkind
      case inl.list.refl =>
        cases hitems
        cases receiver with
        | list values =>
          cases hview
          exact Value.backed_list.mp hreceiver
        | _ => cases hview
      all_goals cases hitems
    · cases hitems

end Class

namespace Host

variable {c : Class}

/-- A value that is no object is of the class of its kind. -/
private theorem class?_of_kind (h : v.kind ≠ .object) : host.class? v = Class.ofKind? v.kind := by
  cases v with
  | object => exact absurd rfl h
  | _ => rfl

/-- **The class of a value sees it**, if its objects are backed. -/
theorem view_of_class? (hv : v.Backed host) (h : host.class? v = some c) :
    ∃ data, c.view v = some data := by
  cases v with
  | object o =>
    obtain ⟨c', data, hc', hview⟩ := hv o .object
    cases h.symm.trans hc'
    exact ⟨data, hview⟩
  | _ => exact Class.view_of_ofKind? h

/-- A class is declared by the host, and then it is that of an object, or it belongs to none. -/
theorem class?_cases (h : host.class? v = some c) :
    (∃ o number className, v = .object o ∧ o.classRef = .declared number className ∧
      c = host.classOf number) ∨ c.IsBuiltin host.patterns := by
  by_cases hkind : v.kind = .object
  · cases v with
    | object o =>
      obtain ⟨number, classRef, display⟩ := o
      cases classRef with
      | textHelper =>
        cases h
        exact .inr (.inr rfl)
      | declared number name =>
        cases h
        exact .inl ⟨_, number, name, rfl, rfl, rfl⟩
    | _ => cases hkind
  · exact .inr (.inl ⟨v.kind, class?_of_kind hkind ▸ h⟩)

/-- Every class of a host that gives backed values does. -/
theorem GivesBacked.class (hhost : host.GivesBacked) (h : host.class? v = some c) :
    c.GivesBacked host := by
  rcases class?_cases h with ⟨-, number, -, -, -, rfl⟩ | hc
  · exact hhost.members number
  · exact hc.givesBacked

/-- The class that a member is looked for in is the class of the receiver. -/
theorem class?_of_classFor (h : host.classFor v name = .ok c) : host.class? v = some c := by
  unfold classFor at h
  split at h
  · cases h
  · split at h
    · next hc =>
      cases h
      exact hc
    · cases h

end Host

/-! ## Uses -/

/-- The class in which a member is looked up sees the receiver. So what is run gets its data and, where it
is a method, one value for each parameter. -/
def Use.Proper (host : Host) : Use → Prop
  | property receiver name => ∀ c, host.classFor receiver name = .ok c →
      ∃ data, c.view receiver = some data ∧
        c.property? receiver name = (c.properties.reverse.lookup name).map fun get => .ok (get data)
  | method receiver name args => ∀ c, host.classFor receiver name = .ok c →
      ∃ data, c.view receiver = some data ∧
        ∀ m ∈ c.overloads name, ∀ bound, m.bind args = .ok bound →
          bound.length = m.params.length ∧ c.invoke m receiver bound = m.body data bound
  | items source _ => ∀ c, host.class? source = some c →
      ∃ data, c.view source = some data ∧
        c.iterate? source = c.items?.map fun items => .ok (items data)
  | procedure .. => True

namespace Class

variable {c : Class} {data : c.Data}

private theorem receive_of_view (h : c.view receiver = some data) : c.receive receiver = .ok data := by
  rw [receive, h]

private theorem property?_of_view (h : c.view receiver = some data) : c.property? receiver name =
    (c.properties.reverse.lookup name).map fun get => .ok (get data) := by
  rw [property?, receive_of_view h]
  rfl

private theorem invoke_of_view (h : c.view receiver = some data) (m : Method c.Data)
    (bound : List Value) :
    c.invoke m receiver bound = m.body data bound := by
  rw [invoke, receive_of_view h]
  rfl

private theorem iterate?_of_view (h : c.view receiver = some data) :
    c.iterate? receiver = c.items?.map fun items => .ok (items data) := by
  rw [iterate?, receive_of_view h]
  rfl

end Class

namespace Use

/-- **What is used of a backed value is used properly.** -/
theorem proper_property (h : receiver.Backed host) : (property receiver name).Proper host := by
  intro c hc
  obtain ⟨data, hview⟩ := Host.view_of_class? h (Host.class?_of_classFor hc)
  exact ⟨data, hview, Class.property?_of_view hview⟩

/-- A call of a method on a backed receiver is proper. -/
theorem proper_method (h : receiver.Backed host) (args : List Value) :
    (method receiver name args).Proper host := by
  intro c hc
  obtain ⟨data, hview⟩ := Host.view_of_class? h (Host.class?_of_classFor hc)
  exact ⟨data, hview, fun m _ bound hbind =>
    ⟨Signature.length_of_bind hbind, Class.invoke_of_view hview m bound⟩⟩

/-- And so is an iteration over one. -/
theorem proper_items (h : v.Backed host) : (items v name).Proper host := by
  intro c hc
  obtain ⟨data, hview⟩ := Host.view_of_class? h hc
  exact ⟨data, hview, Class.iterate?_of_view hview⟩

end Use

/-! ## Answers -/

/-- The body that is called for what is used fails with this very fault: that of the method which is
chosen in a class of the host, or that of a procedure. -/
inductive Use.Says (host : Host) (f : Fault) : Use → Prop
  | method {o : Object} {number : Nat} {className name : String} {args bound : List Value}
      {data : (host.classOf number).Data} {m : Method (host.classOf number).Data} :
      o.classRef = .declared number className → (host.classOf number).view (.object o) = some data →
      Method.forCount? ((host.classOf number).overloads name) args.length = some m →
      m.bind args = .ok bound → m.body data bound = .error f → Says host f (.method (.object o) name args)
  | procedure {p : Procedure} {name : String} {args : List Value} :
      p.accepts (args.map Value.kind) = true → host.call p.number args = .error f →
      Says host f (.procedure p name args)

/-- If a member is misused, then it is a body of the host that says so, and it is called for something
that is used. -/
def Host.Allows (host : Host) (used : Use → Prop) (cause : Cause) : Prop :=
  ∀ f, cause = .fault f → f.isMisuse = true → ∃ use, used use ∧ use.Says host f

/-- A good result, or an error that is allowed. -/
inductive Host.Answers (host : Host) (used : Use → Prop) {α : Type} (Good : α → Prop) :
    Except Cause α → Prop
  | ok {a : α} : Good a → Answers host used Good (.ok a)
  | error {cause : Cause} : host.Allows used cause → Answers host used Good (.error cause)

section
variable {used used' : Use → Prop} {α : Type} {Good : α → Prop}

/-- What is allowed stays so if more is used. -/
theorem Host.Allows.mono {cause : Cause} (h : host.Allows used cause)
    (hused : ∀ use, used use → used' use) : host.Allows used' cause := by
  intro f hf hmisuse
  obtain ⟨use, huse, hsays⟩ := h f hf hmisuse
  exact ⟨use, hused use huse, hsays⟩

/-- What is no fault is no misuse. -/
theorem Host.allows_of_ne {cause : Cause} (h : ∀ f, cause ≠ .fault f) : host.Allows used cause :=
  fun f hf _ => absurd hf (h f)

/-- A fault that is of no misuse may come from anywhere. -/
private theorem Host.allows_fault {f : Fault} (h : f.isMisuse = false) :
    host.Allows used (.fault f) := by
  intro g hg hmisuse
  cases hg
  rw [h] at hmisuse
  cases hmisuse

/-- An error that is no fault of a body may be answered. -/
theorem Host.Answers.cause {cause : Cause} (h : ∀ f, cause ≠ .fault f) :
    host.Answers used Good (.error cause) :=
  .error (allows_of_ne h)

/-- And so may a fault that is of no misuse. -/
theorem Host.Answers.fault {f : Fault} (h : f.isMisuse = false) :
    host.Answers used Good (.error (.fault f)) :=
  .error (allows_fault h)

end

private theorem Signature.isMisuse_of_bind_error {s : Signature} {args : List Value} {f : Fault}
    (h : s.bind args = .error f) : f.isMisuse = false := by
  unfold bind at h
  split at h
  · cases h
    rfl
  · obtain ⟨i, p, -, hf⟩ := exists_of_bindFrom_error h
    rw [bindOne_eq] at hf
    split at hf
    · cases hf
      rfl
    · split at hf
      · cases hf
      · cases hf
        rfl

namespace Host

variable {c : Class} {args : List Value} {used : Use → Prop}

/-- What is wrong with a receiver that has no class is allowed. -/
theorem allows_of_classFor {cause : Cause} (h : host.classFor receiver name = .error cause) :
    host.Allows used cause := by
  unfold classFor at h
  split at h
  · cases h
    exact allows_of_ne fun _ => nofun
  · split at h
    · cases h
    · cases h
      exact allows_of_ne fun _ => nofun

/-- To read a member of a backed receiver answers a backed value, or an error that is allowed. -/
theorem readMember_answers (hhost : host.GivesBacked) (hreceiver : receiver.Backed host) :
    host.Answers used (Value.Backed host) (host.readMember receiver name) := by
  unfold readMember
  cases hclass : host.classFor receiver name with
  | error cause => exact .error (allows_of_classFor hclass)
  | ok c =>
    have hc := class?_of_classFor hclass
    obtain ⟨data, hview⟩ := view_of_class? hreceiver hc
    dsimp only
    rw [Class.property?_of_view hview]
    cases hget : c.properties.reverse.lookup name with
    | none => exact .cause fun _ => nofun
    | some get =>
      obtain ⟨before, after, hproperties, -⟩ := List.lookup_eq_some_iff.mp hget
      have hmem : (name, get) ∈ c.properties := by
        rw [← List.mem_reverse, hproperties]
        exact List.mem_append_right _ List.mem_cons_self
      exact .ok ((hhost.class hc).property name get receiver data hmem hreceiver hview)

/-- What the body of the chosen method fails with is in order where the class belongs to no host. Else it
is the host that says so. -/
theorem allows_of_body {m : Method c.Data} {data : c.Data} {bound : List Value} {f : Fault}
    (hc : host.class? receiver = some c) (hview : c.view receiver = some data)
    (hfound : Method.forCount? (c.overloads name) args.length = some m) (hbind : m.bind args = .ok bound)
    (hf : m.body data bound = .error f) :
    host.Allows (fun use => use = .method receiver name args) (.fault f) := by
  intro g hg hmisuse
  cases hg
  rcases class?_cases hc with ⟨o, number, className, rfl, hclassRef, rfl⟩ | hbuiltin
  · exact ⟨_, rfl, .method hclassRef hview hfound hbind hf⟩
  · have hm : m ∈ c.methods := (Method.forCount?_eq_some_iff.mp hfound).mem
    rw [(hbuiltin.keepsTo data hm hbind).proper f hf] at hmisuse
    cases hmisuse

/-- So does a call of a method: what the chosen body says is said by that use. -/
theorem callMethod_answers (hhost : host.GivesBacked) (hreceiver : receiver.Backed host)
    (hc : host.class? receiver = some c) (hargs : ∀ arg ∈ args, arg.Backed host) :
    host.Answers (fun use => use = .method receiver name args) (Value.Backed host)
      (c.callMethod receiver name args) := by
  obtain ⟨data, hview⟩ := view_of_class? hreceiver hc
  unfold Class.callMethod
  dsimp only
  split
  · exact .cause fun _ => nofun
  · cases hfound : Method.forCount? (c.overloads name) args.length with
    | none => exact .cause fun _ => nofun
    | some m =>
      have hm : m ∈ c.methods := (Method.forCount?_eq_some_iff.mp hfound).mem
      dsimp only
      cases hbind : m.bind args with
      | error f => exact .fault (Signature.isMisuse_of_bind_error hbind)
      | ok bound =>
        dsimp only
        rw [Class.invoke_of_view hview]
        cases hbody : m.body data bound with
        | ok v =>
          exact .ok ((hhost.class hc).method m hm receiver data args bound v hreceiver hview hargs hbind
            hbody)
        | error f => exact .error (allows_of_body hc hview hfound hbind hbody)

/-- The items of a backed value are backed. -/
theorem items_answers (hhost : host.GivesBacked) (hv : v.Backed host) :
    host.Answers used (fun items => ∀ item ∈ items, item.Backed host) (host.items v name) := by
  unfold items
  split
  · exact .ok (Value.backed_list.mp hv)
  · refine .ok fun item hitem => ?_
    obtain ⟨c, -, rfl⟩ := List.mem_map.mp hitem
    exact Value.backed_of_kind nofun nofun
  · next o =>
    cases hc : host.class? (.object o) with
    | none => exact .cause fun _ => nofun
    | some c =>
      obtain ⟨data, hview⟩ := view_of_class? hv hc
      rw [Option.bind_some, Class.iterate?_of_view hview]
      cases hitems : c.items? with
      | none => exact .cause fun _ => nofun
      | some items => exact .ok ((hhost.class hc).items items _ data hitems hv hview)
  · exact .cause fun _ => nofun

/-- A procedure answers as its own body does. -/
theorem callProcedure_answers (hhost : host.GivesBacked) (p : Procedure)
    (hargs : ∀ arg ∈ args, arg.Backed host) :
    host.Answers (fun use => use = .procedure p name args) (Value.Backed host)
      (host.callProcedure p name args) := by
  unfold callProcedure
  dsimp only
  split
  · next haccepts =>
    cases hcall : host.call p.number args with
    | ok v => exact .ok (hhost.procedure p.number args v hargs hcall)
    | error f =>
      refine .error fun g hg _ => ?_
      cases hg
      exact ⟨_, rfl, .procedure haccepts hcall⟩
  · exact .cause fun _ => nofun

end Host

/-! Operators know nothing of members. -/

/-- The value is neither an object nor a list. -/
theorem Host.Answers.scalar (h : v.kind ≠ .object) (h' : v.kind ≠ .list) :
    host.Answers used (Value.Backed host) (.ok v) :=
  .ok (Value.backed_of_kind h h')

namespace Value

variable {a c : Value} {used : Use → Prop}

private theorem add_answers : host.Answers used (Value.Backed host) (Cause.ofFault (a.add c)) := by
  unfold add
  split
  · exact .scalar nofun nofun
  · exact .scalar nofun nofun
  · split
    · exact .scalar nofun nofun
    · exact .fault rfl

private theorem sub_answers : host.Answers used (Value.Backed host) (Cause.ofFault (a.sub c)) := by
  unfold sub
  split
  · exact .scalar nofun nofun
  · exact .scalar nofun nofun
  · exact .fault rfl

private theorem mul_answers : host.Answers used (Value.Backed host) (Cause.ofFault (a.mul c)) := by
  unfold mul
  split
  · exact .scalar nofun nofun
  · exact .scalar nofun nofun
  · exact .fault rfl

private theorem div_answers : host.Answers used (Value.Backed host) (Cause.ofFault (a.div c)) := by
  unfold div
  split
  · split
    · exact .fault rfl
    · exact .scalar nofun nofun
  · exact .scalar nofun nofun
  · exact .fault rfl

private theorem eq?_answers (f : Bool → Bool) :
    host.Answers used (Value.Backed host) (Cause.ofFault ((a.eq? c).map fun equal => .boolean (f equal))) := by
  cases h : a.eq? c with
  | ok equal => exact .scalar nofun nofun
  | error fault =>
    rw [eq?_eq_error_iff] at h
    exact h.2 ▸ .fault rfl

private theorem ordered_answers (op : Token) (among : List Ordering) :
    host.Answers used (Value.Backed host) (a.ordered op among c) := by
  unfold ordered compare?
  cases a.numbers? c with
  | none => exact .fault rfl
  | some numbers =>
    cases numbers with
    | integers m n => exact .scalar nofun nofun
    | reals x y =>
      dsimp only
      split
      · exact .scalar nofun nofun
      · exact .scalar nofun nofun
      · next h => cases h

private theorem logical_answers (op : Token) (join : Bool → Bool → Bool) :
    host.Answers used (Value.Backed host) (a.logical op join c) := by
  unfold logical
  split
  · exact .scalar nofun nofun
  · exact .cause fun _ => nofun

end Value

namespace Token

variable {used : Use → Prop}

/-- An operator answers a plain value, or an error about its operands. -/
theorem applyBinary_answers (op : Token) (a c : Value) :
    host.Answers used (Value.Backed host) (op.applyBinary a c) := by
  unfold applyBinary
  split
  · exact Value.add_answers
  · exact Value.sub_answers
  · exact Value.mul_answers
  · exact Value.div_answers
  · exact Value.eq?_answers id
  · exact Value.eq?_answers not
  · exact Value.ordered_answers op _
  · exact Value.ordered_answers op _
  · exact Value.ordered_answers op _
  · exact Value.ordered_answers op _
  · exact Value.logical_answers op _
  · exact Value.logical_answers op _
  · exact .cause fun _ => nofun

/-- And so does a sign, or a negation. -/
theorem applyUnary_answers (op : Token) (v : Value) :
    host.Answers used (Value.Backed host) (op.applyUnary v) := by
  unfold applyUnary
  split
  · unfold Value.neg
    split
    · exact .scalar nofun nofun
    · exact .scalar nofun nofun
    · exact .fault rfl
  · unfold Value.pos
    split
    · exact .scalar nofun nofun
    · exact .scalar nofun nofun
    · exact .fault rfl
  · exact .cause fun _ => nofun

end Token

end Stencil
