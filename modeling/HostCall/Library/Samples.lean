import HostCall.Library.Basic

/-!
# Sample classes

Classes that are reached through import, with every kind of member the bridge tells apart, and the
modules that hold them.
-/

namespace HostCall

namespace Samples

def fixtures : Text := "tests.fixtures"
def extras : Text := "oracle_ext"
def package : Text := "oracle_pkg"
def packageModule : Text := "oracle_pkg.mod"
def bindings : Text := "oracle_bindings"

def foo : ClassName := ⟨fixtures, "Foo"⟩
def chooser : ClassName := ⟨fixtures, "Chooser"⟩
def outer : ClassName := ⟨fixtures, "Outer"⟩
def outerInner : ClassName := ⟨fixtures, "Outer.Inner"⟩
def base : ClassName := ⟨extras, "Base"⟩
def derived : ClassName := ⟨extras, "Derived"⟩
def maker : ClassName := ⟨extras, "Maker"⟩
def raiser : ClassName := ⟨extras, "Raiser"⟩
def both : ClassName := ⟨extras, "Both"⟩
def top : ClassName := ⟨package, "Top"⟩
def topModule : ClassName := ⟨package, "Top.mod"⟩
def leaf : ClassName := ⟨packageModule, "Leaf"⟩
def leafInner : ClassName := ⟨packageModule, "Leaf.Inner"⟩
def leafDeep : ClassName := ⟨packageModule, "Leaf.Inner.Deep"⟩
def counter : ClassName := ⟨bindings, "Counter"⟩
def textMembers : ClassName := ⟨bindings, "Text"⟩

/-- A class without a constructor of its own. -/
def plain (c : ClassName) : Callable :=
  .nullary (lastSegment c.path) (HostM.create c [])

/-- A function of its receiver that gives a fixed text. -/
def sayer (name : Text) (t : Text) : Callable :=
  .unary name "self" fun _ => return .text t

def sayingVariant (name p : Text) (t : Text) : Callable :=
  .unary name p fun _ => return .text t

def sayingMethod (name : Text) (t : Text) : Callable :=
  .binary name "self" "value" fun _ _ => return .text t

/-! ## Fixtures -/

def fooDecl : ClassDecl where
  construct :=
    { name := "Foo", parameters := [⟨"value", some (.integer 0)⟩]
      body := fun
        | [v] => HostM.create foo [("value", v)]
        | args => throw (.tooManyArguments "Foo.__init__" 1 2 args.length) }
  members := [
    ("count", .method (.binary "Foo.count" "self" "text" fun _ t => match t with
      | .null => return Value.int32 (-1)
      | t => do
        return .scalar (← HostM.read fun h => do Value.integerToScalar .int (← t.length h)))),
    ("bar", .method (.binary "Foo.bar" "self" "text" fun _ t => do
      return .text (Text.concat ["bar:", ← HostM.read t.display]))),
    ("explode", .method (.unary "Foo.explode" "self" fun _ => throw (.raised .runtime "boom"))),
    ("twice", .staticMethod (.unary "Foo.twice" "value" fun v => do
      let w ← HostM.update fun h => v.twice h
      HostM.read fun h => w.toScalars h .int)),
    ("mix", .staticMethod
      { name := "Foo.mix"
        parameters := [⟨"wide", none⟩, ⟨"narrow", none⟩, ⟨"real", none⟩, ⟨"flag", none⟩]
        body := fun
          | [wide, narrow, real, flag] => HostM.read fun h => do
            let f ← flag.truth h
            return .text (Text.join "|"
              [← wide.display h, ← narrow.display h, ← real.display h, truthText f])
          | args => throw (.tooManyArguments "Foo.mix" 4 4 args.length) }),
    ("describe", .staticMethod (.unary "Foo.describe" "value" fun v => match v with
      | .null => return .text "null"
      | v => do return .text (← HostM.read v.quoted)))]

def chooserDecl : ClassDecl where
  construct := plain chooser
  members := [
    ("pick", .variants "pick" [
      (["J"], sayingVariant "Chooser.pick" "value" "long"),
      (["F"], sayingVariant "Chooser._pick_float" "value" "float")]),
    ("pair", .variants "pair" [
      (["I", "J"], .binary "Chooser.pair" "a" "b" fun _ _ => return .text "IJ"),
      (["J", "I"], .binary "Chooser._pair_swapped" "a" "b" fun _ _ => return .text "JI")])]

def outerDecl : ClassDecl where
  construct := plain outer
  members := [("Inner", .nested (.declared outerInner))]

def outerInnerDecl : ClassDecl where
  construct := .nullary "Inner" (HostM.create outerInner [("tag", .text "inner")])

/-! ## Further classes -/

/-- Makes an instance with the two fields of the base class. -/
def newBase (c : ClassName) : Callable :=
  { name := lastSegment c.path
    parameters := [⟨"a", some (.integer 1)⟩, ⟨"b", some (.integer 2)⟩]
    body := fun
      | [a, b] => HostM.create c [("a", a), ("b", b)]
      | args => throw (.tooManyArguments "Base.__init__" 1 3 args.length) }

/-- The sum of both fields and the argument, as a long. -/
def total (self c : Value) : HostM Value := do
  let a ← HostM.field self "a"
  let b ← HostM.field self "b"
  let ab ← HostM.update fun h => a.add h b
  let abc ← HostM.update fun h => ab.add h c
  HostM.read fun h => abc.toScalars h .long

def baseDecl : ClassDecl where
  construct := newBase base
  members := [
    ("LIMIT", .constant (.integer 5)),
    ("NOTHING", .constant .null),
    ("who", .method (sayer "Base.who" "base")),
    ("total", .method
      { name := "Base.total", parameters := [⟨"self", none⟩, ⟨"c", some (.integer 0)⟩]
        body := fun
          | [self, c] => total self c
          | args => throw (.tooManyArguments "Base.total" 1 2 args.length) }),
    ("tag", .variants "tag" [
      (["I"], sayingMethod "Base.tag" "base-int"),
      (["Ljava/lang/String;"], sayingMethod "Base._tag_string" "base-string")]),
    ("kind", .classMethod (.unary "Base.kind" "cls" fun c => match c with
      | .type t => return .text t.name
      | v => throw (.noAttribute v.errorName "__name__"))),
    ("spread", .staticMethod
      { name := "Base.spread", parameters := [], variadic := true
        body := fun args => return .integer args.length }),
    ("same", .method (.unary "Base.same" "self" fun self => return self)),
    ("broken", .property (.unary "Base.broken" "self" fun _ =>
      throw (.raised .key (Text.quoted "broken property")))),
    ("unknown", .method (.unary "Base.unknown" "self" fun _ => return .unknown))]

def derivedDecl : ClassDecl where
  bases := [.declared base, .object]
  construct := newBase derived
  members := [
    ("who", .method (sayer "Derived.who" "derived")),
    ("tag", .variants "tag" [(["J"], sayingMethod "Derived.tag" "derived-long")])]

def newMaker (v route : Value) : HostM Value :=
  HostM.create maker [("route", route), ("value", v)]

def makerDecl : ClassDecl where
  construct := .binary "Maker.__init__" "value" "route" newMaker
  members := [
    ("new_instance", .staticMethod (.unary "Maker.new_instance" "value" fun v =>
      newMaker v (.text "hook")))]

/-- The error of a missing key, whose text quotes the key. -/
def missingKey (h : Heap) (v : Value) : HostError :=
  match v.quoted h with
  | .ok q => .raised .key q
  | .error e => .unprintable .key e

/-- Raises the error that the kind names, or a missing key. -/
def exitNow (v : Value) : HostM Value := do
  let _ ← HostM.read v.hash
  let missing ← HostM.read fun h => .ok (missingKey h v)
  match v with
  | .text t =>
    if t = "zero" then throw (.raised .zeroDivision t)
    else if t = "stop" then throw (.raised .stopIteration t)
    else throw missing
  | _ => throw missing

def raiserDecl : ClassDecl where
  construct := .unary "Raiser.__init__" "text" fun v => do
    let t ← HostM.read v.display
    throw (.raised .value (Text.concat ["refused ", t]))
  members := [("exit_now", .staticMethod (.unary "Raiser.exit_now" "kind" exitNow))]

def bothDecl : ClassDecl where
  construct := plain both
  members := [
    ("take", .variants "take" [
      (["Ljava/lang/Object;"], sayingVariant "Both.take" "value" "Object"),
      (["Ljava/lang/Number;"], sayingVariant "Both._take_number" "value" "Number"),
      (["Ljava/lang/Integer;"], sayingVariant "Both._take_integer" "value" "Integer"),
      (["[I"], sayingVariant "Both._take_ints" "value" "int[]"),
      (["[[I"], sayingVariant "Both._take_grid" "value" "int[][]")]),
    ("bad", .variants "bad" [
      (["Lcom/example/Missing;"], sayingVariant "Both.bad" "value" "bad")]),
    ("worse", .variants "worse" [(["QQ"], sayingVariant "Both.worse" "value" "worse")])]

def topDecl : ClassDecl where
  construct := plain top
  members := [("mod", .nested (.declared topModule))]

def leafDecl : ClassDecl where
  construct := plain leaf
  members := [("Inner", .nested (.declared leafInner))]

def leafInnerDecl : ClassDecl where
  construct := plain leafInner
  members := [("Deep", .nested (.declared leafDeep))]

def leafDeepDecl : ClassDecl where
  construct := plain leafDeep
  members := [("depth", .method (sayer "Leaf.Inner.Deep.depth" "deep"))]

/-! ## Bound classes -/

/-- Adds to the count of a counter. -/
def addToCount (self : Value) (n : Int) : HostM Int := do
  match ← HostM.field self "count", self with
  | .integer m, .object _ a => do
    HostM.set a (.entries [("count", .integer (m + n))])
    return m + n
  | _, v => throw (.noAttribute v.errorName "count")

def counterDecl : ClassDecl where
  construct :=
    { name := "Counter", parameters := [⟨"start", some (.integer 0)⟩]
      body := fun
        | [v] => do
          let n ← HostM.ofExcept v.toInteger
          HostM.create counter [("count", .integer n)]
        | args => throw (.tooManyArguments "Counter.__init__" 1 2 args.length) }
  members := [
    ("next", .method (.unary "Counter.next" "self" fun self => do
      return Value.int32 (← addToCount self 1))),
    ("add", .variants "add" [
      (["I"], .binary "Counter.add" "self" "value" fun self v => do
        let _ ← HostM.field self "count"
        let n ← HostM.ofExcept v.toInteger
        let _ ← addToCount self n
        return self),
      (["Lext/Counter;"], .binary "Counter._add_counter" "self" "other" fun self other => do
        let _ ← HostM.field self "count"
        match ← HostM.field other "count" with
        | .integer n => do
          let _ ← addToCount self n
          return self
        | v => throw (.noAttribute v.errorName "count"))])]

/-- How often something is repeated. -/
def repetitions : Value → Except HostError Nat
  | .boolean b => .ok b.toNat
  | .integer n => .ok n.toNat
  | .scalar s => match s.toInt? with
    | some n => .ok n.toNat
    | none => .error (.repeatBy (Value.scalar s).errorName)
  | v => .error (.repeatBy v.errorName)

def textDecl : ClassDecl where
  construct := plain textMembers
  members := [
    ("shout", .method (.binary "Text.shout" "self" "times" fun self times =>
      HostM.update fun h => do
        let n ← repetitions times
        self.add h (.text (List.replicate n '!')))),
    ("length", .method (.unary "Text.length" "self" fun _ => return Value.int32 (-1)))]

/-! ## Ordered mappings -/

/-- The key and the value in an item that is to be an entry. -/
def pairOf (h : Heap) (v : Value) : Except HostError (Value × Value) := do
  match ← v.iterate h with
  | [k, w] => return (k, w)
  | [] => throw (.raised .value "need more than 0 values to unpack")
  | [_] => throw (.raised .value "need more than 1 value to unpack")
  | _ => throw (.raised .value "too many values to unpack (expected 2)")

/-- The entries of a mapping, or those that the items of a value are, put in one after another. -/
def orderedEntries (h : Heap) (v : Value) : Except HostError (List (Value × Value)) := do
  match v.entries? h with
  | some entries => return entries
  | none => (← v.iterate h).foldlM (fun entries item => do
      let (k, w) ← pairOf h item
      Value.insertEntry h entries k w) []

def newOrderedMapping : List Value → HostM Value
  | [] => make []
  | [v] => do make (← HostM.read fun h => orderedEntries h v)
  | args => throw (.raised .type (Text.concat
      ["expected at most 1 arguments, got ", Text.ofNat args.length]))
where
  make (entries : List (Value × Value)) : HostM Value := do
    return .object (.declared HostType.orderedMapping) (← HostM.alloc (.pairs entries))

/-! ## Modules -/

def classes : List (HostType × ClassDecl) := [
  (.declared foo, fooDecl), (.declared chooser, chooserDecl), (.declared outer, outerDecl),
  (.declared outerInner, outerInnerDecl), (.declared base, baseDecl),
  (.declared derived, derivedDecl), (.declared maker, makerDecl), (.declared raiser, raiserDecl),
  (.declared both, bothDecl), (.declared top, topDecl),
  (.declared topModule, { construct := plain topModule }), (.declared leaf, leafDecl),
  (.declared leafInner, leafInnerDecl), (.declared leafDeep, leafDeepDecl),
  (.declared counter, counterDecl), (.declared textMembers, textDecl),
  (.declared HostType.orderedMapping,
    { bases := [.mapping, .object]
      construct := { name := "OrderedDict", parameters := [], inspectable := false
                     body := newOrderedMapping } })]

def ofClass (c : ClassName) : Attribute := .type (.declared c)

def modules : List (Text × ModuleState) := [
  ("tests", .present { isPackage := true, attributes := [("fixtures", .module)] }),
  (fixtures, .present { attributes := [("np", .module), ("overloaded", .object .plain),
    ("Foo", ofClass foo), ("Chooser", ofClass chooser), ("Outer", ofClass outer)] }),
  (extras, .present { attributes := [("np", .module), ("overloaded", .object .plain),
    ("OrderedDict", ofClass HostType.orderedMapping), ("Base", ofClass base),
    ("Derived", ofClass derived), ("Maker", ofClass maker), ("Raiser", ofClass raiser),
    ("Both", ofClass both)] }),
  (package, .present { isPackage := true, attributes := [("Top", ofClass top)] }),
  (packageModule, .present { attributes := [("Leaf", ofClass leaf), ("VALUE", .object .integer)] }),
  (bindings, .present
    { attributes := [("np", .module), ("overloaded", .object .plain),
        ("host_class", .object .plain), ("Counter", ofClass counter), ("Text", ofClass textMembers)]
      bindings := [⟨"ext.Counter", .declared counter, .declared counter⟩,
        ⟨"ext.Text", .text, .declared textMembers⟩,
        ⟨"java.lang.Math", .declared counter, .declared counter⟩] }),
  ("oracle_missing_dep", .failing (.noModule "module_that_does_not_exist" none)),
  ("oracle_explodes", .failing (.raised .value "module refused to load")),
  ("collections", .present { isPackage := true, attributes :=
    [("OrderedDict", ofClass HostType.orderedMapping)] })]

end Samples

end HostCall
