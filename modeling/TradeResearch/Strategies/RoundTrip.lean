import TradeResearch.Lib.Fallible
import TradeResearch.Strategies.Payload

/-!
# Reading back what was written

A definition that was read is read again from what it is written as, unless its symbol has grown by
being written in capitals; and every condition of it compares what can be compared.

* `Formed` is what a node that was read is made of: `parseNode_formed`, `parseNode_asDict`.
* `comparable_of_formed`: the conditions of such a node, at any depth.
* `parseDefinition_formed`, `parseDefinition_toPayload_iff`: the same of whole definitions.
-/

namespace TradeResearch.Strategies.Payload

open Kleene Marketdata Webhooks

structure Python.Lawful (py : Python) : Prop where
  upper_upper : ∀ s, py.upper (py.upper s) = py.upper s
  strip_upper : ∀ s, strip (py.upper (strip s)) = py.upper (strip s)
  upper_eq_nil : ∀ s, py.upper s = [] → s = []

theorem choose_eq_some {α : Type} {all : List α} {name : α → String} {text : Str} {a : α}
    (chosen : choose all name text = some a) : text = lit (name a) := by
  have is := List.find?_some chosen
  exact (of_decide_eq_true is).symm

@[simp] theorem choose_kind (k : OperandKind) :
    choose OperandKind.all OperandKind.name (lit k.name) = some k := by
  cases k <;> rfl

@[simp] theorem choose_comparison (c : Comparison) :
    choose comparisons comparisonName (lit (comparisonName c)) = some c := by
  cases c <;> rfl

@[simp] theorem choose_signalType (s : SignalType) :
    choose signalTypes SignalType.name (lit s.name) = some s := by
  cases s <;> rfl

@[simp] theorem choose_timeframe (t : Timeframe) :
    choose timeframes Timeframe.name (lit t.name) = some t := by
  cases t <;> rfl

theorem strip_strip (s : Str) : strip (strip s) = strip s := trim_trim isSpace s

theorem length_strip_le (s : Str) : (strip s).length ≤ s.length :=
  (trim_inside isSpace s).length_le

section Reading

variable {py : Python}

theorem require_eq_ok {payload : Json} {path : Str} {data : Fields} :
    require payload path = .ok data ↔ payload = .obj data := by
  unfold require
  split
  · simp
  · rename_i other
    constructor
    · intro failed
      cases failed
    · intro is
      exact absurd is (other data)

theorem string_eq_ok {payload : Fields} {key : String} {path : Str} {most : ℕ} {t : Str} :
    string payload key path most = .ok t ↔
      ∃ s, payload.get key = .str s ∧ strip s ≠ [] ∧ s.length ≤ most ∧ strip s = t := by
  unfold string
  split
  · rename_i s is
    split_ifs with empty long
    · constructor
      · intro failed
        cases failed
      · rintro ⟨s', is', some_, -⟩
        cases is.symm.trans is'
        exact absurd empty some_
    · constructor
      · intro failed
        cases failed
      · rintro ⟨s', is', -, short, -⟩
        cases is.symm.trans is'
        exact absurd long (not_lt.mpr short)
    · constructor
      · intro read
        cases read
        exact ⟨s, is, empty, not_lt.mp long, rfl⟩
      · rintro ⟨s', is', -, -, rfl⟩
        cases is.symm.trans is'
        rfl
  · rename_i other
    constructor
    · intro failed
      cases failed
    · rintro ⟨s, is, -⟩
      exact absurd is (other s)

def Condition.Comparable (c : Condition) : Prop :=
  ¬ (c.left.kind = .constant ∧ c.right.kind = .constant) ∧
    (c.left.kind = .constant ∨ c.right.kind = .constant ∨ c.left.unit = c.right.unit)

def Operand.Formed : Operand → Prop
  | .indicator _ period => 2 ≤ period ∧ period ≤ 500
  | _ => True

structure Condition.Formed (c : Condition) : Prop where
  left : c.left.Formed
  right : c.right.Formed
  comparable : c.Comparable

def Formed : ℕ → Node → Prop
  | 0, _ => False
  | _ + 1, .atom c => c.Formed
  | levels + 1, .not f => Formed levels f
  | levels + 1, .all fs => 2 ≤ fs.length ∧ ∀ f ∈ fs, Formed levels f
  | levels + 1, .any fs => 2 ≤ fs.length ∧ ∀ f ∈ fs, Formed levels f

theorem Operand.unit_eq_scalar {o : Operand} : o.unit = .scalar ↔ o.kind = .constant := by
  cases o with
  | indicator ref period => cases ref <;> simp [unit, kind, Indicator.unit]
  | price ref => cases ref <;> simp [unit, kind, PriceField.unit]
  | constant value => simp [unit, kind]

theorem checkComparable_eq_ok {left right : Operand} {path : Str} (c : Comparison) :
    checkComparable py left right path = .ok () ↔ Condition.Comparable ⟨left, c, right⟩ := by
  unfold checkComparable Condition.Comparable
  simp only [Operand.unit_eq_scalar]
  split_ifs with both one other
  · exact iff_of_false (by intro failed; cases failed) fun comparable => comparable.1 both
  · exact iff_of_true rfl ⟨both, one.elim Or.inl fun right => Or.inr (Or.inl right)⟩
  · refine iff_of_false (by intro failed; cases failed) fun comparable => ?_
    rcases comparable.2 with left | right | same
    · exact one (Or.inl left)
    · exact one (Or.inr right)
    · exact other same
  · exact iff_of_true rfl ⟨both, Or.inr (Or.inr (not_not.mp other))⟩

def numberOf (py : Python) : Json → Option Float64
  | .int i => py.float i
  | .float f => some f
  | _ => none

inductive OperandRead (py : Python) (data : Fields) : Operand → Prop
  | constant (value : Float64)
      (kind : textOf py (data.get "kind") = lit OperandKind.constant.name)
      (number : numberOf py (data.get "value") = some value) : OperandRead py data (.constant value)
  | price (ref : PriceField) (kind : textOf py (data.get "kind") = lit OperandKind.price.name)
      (named : data.get "ref" = .str (lit ref.ref)) : OperandRead py data (.price ref)
  | indicator (ref : Indicator) (period : ℤ) (path : Str)
      (kind : textOf py (data.get "kind") = lit OperandKind.indicator.name)
      (named : data.get "ref" = .str (lit ref.key))
      (params : validateParams py ref ((data.get "params").or (.obj [])) path = .ok period) :
      OperandRead py data (.indicator ref period)

theorem parseOperand_eq_ok {payload : Json} {path : Str} {o : Operand}
    (read : parseOperand py payload path = .ok o) :
    ∃ data, payload = .obj data ∧ OperandRead py data o := by
  obtain ⟨data, required, read⟩ := Fallible.bind_eq_ok.mp read
  refine ⟨data, require_eq_ok.mp required, ?_⟩
  obtain ⟨_, -, read⟩ := Fallible.bind_eq_ok.mp read
  split at read
  · cases read
  · rename_i kind
    split at read
    · rename_i i is
      split at read
      · rename_i value converted
        cases read
        refine .constant value (choose_eq_some kind) ?_
        rw [is]
        exact converted
      · cases read
    · rename_i value is
      cases read
      refine .constant value (choose_eq_some kind) ?_
      rw [is]
      rfl
    · cases read
  · rename_i kind
    split at read
    · rename_i c cs is
      split at read
      · rename_i ref named
        cases read
        exact .price ref (choose_eq_some kind) (is.trans (congrArg Json.str (choose_eq_some named)))
      · cases read
    · cases read
  · rename_i kind
    split at read
    · rename_i c cs is
      split at read
      · rename_i ref named
        obtain ⟨period, params, read⟩ := Fallible.bind_eq_ok.mp read
        cases read
        exact .indicator ref period path (choose_eq_some kind)
          (is.trans (congrArg Json.str (choose_eq_some named))) params
      · cases read
    · cases read

theorem validatePeriod_eq_ok {v : Json} {period : ℤ} (valid : validatePeriod v = .ok period) :
    v = .int period ∧ 2 ≤ period ∧ period ≤ 500 := by
  unfold validatePeriod at valid
  split at valid
  · cases valid
  · split at valid
    · rename_i bounds
      cases valid
      exact ⟨rfl, bounds⟩
    · cases valid
  · cases valid

theorem validateParams_eq_ok {ref : Indicator} {given : Json} {path : Str} {period : ℤ}
    (valid : validateParams py ref given path = .ok period) :
    ∃ fields, given = .obj fields ∧ (∀ f ∈ fields, f.1 = lit "period") ∧
      (fields.lookup (lit "period") = none ∧ period = defaultPeriod ref ∨
        fields.lookup (lit "period") = some (.int period)) ∧ 2 ≤ period ∧ period ≤ 500 := by
  unfold validateParams at valid
  split at valid
  · rename_i fields
    dsimp only at valid
    split_ifs at valid with known
    · refine ⟨fields, rfl, ?_, ?_⟩
      · intro f mem
        have none_left := List.filter_eq_nil_iff.mp (List.isEmpty_iff.mp known) f mem
        exact not_not.mp fun other => none_left (decide_eq_true other)
      · split at valid
        · rename_i absent
          cases valid
          exact ⟨Or.inl ⟨absent, rfl⟩, by cases ref <;> decide⟩
        · rename_i v present
          split at valid
          · rename_i period' checked
            cases valid
            obtain ⟨rfl, bounds⟩ := validatePeriod_eq_ok checked
            exact ⟨Or.inr present, bounds⟩
          · cases valid
    · cases valid
  · cases valid
  · dsimp only at valid
    split_ifs at valid
    all_goals cases valid
  · cases valid

theorem parseOperand_formed {payload : Json} {path : Str} {o : Operand}
    (read : parseOperand py payload path = .ok o) : o.Formed := by
  obtain ⟨data, -, how⟩ := parseOperand_eq_ok read
  cases how with
  | constant value kind number | price ref kind named => exact True.intro
  | indicator ref period path kind named params =>
    obtain ⟨fields, -, -, -, bounds⟩ := validateParams_eq_ok params
    exact bounds

theorem parseEach_eq_ok {α : Type} {parse : Json → Str → Parse α} {path : Str} {i : ℕ}
    {vs : List Json} {as : List α} (read : parseEach parse path i vs = .ok as) :
    List.Forall₂ (fun v a => ∃ path, parse v path = .ok a) vs as := by
  induction vs generalizing i as with
  | nil =>
    cases read
    exact .nil
  | cons v vs ih =>
    obtain ⟨first, here, read⟩ := Fallible.bind_eq_ok.mp read
    obtain ⟨rest, others, read⟩ := Fallible.bind_eq_ok.mp read
    cases read
    exact .cons ⟨_, here⟩ (ih others)

theorem parseEach_mem {α : Type} {parse : Json → Str → Parse α} {path : Str} {i : ℕ}
    {vs : List Json} {as : List α} (read : parseEach parse path i vs = .ok as) :
    ∀ a ∈ as, ∃ v path, parse v path = .ok a := by
  have reads := parseEach_eq_ok read
  clear read
  induction reads with
  | nil => exact fun a mem => absurd mem List.not_mem_nil
  | cons first _ rest => exact List.forall_mem_cons.mpr ⟨⟨_, first⟩, rest⟩

theorem parseEach_of_each {α : Type} {parse : Json → Str → Parse α} {dict : α → Json} {path : Str}
    {as : List α} (each : ∀ a ∈ as, ∀ path, parse (dict a) path = .ok a) {i : ℕ} :
    parseEach parse path i (as.map dict) = .ok as := by
  induction as generalizing i with
  | nil => rfl
  | cons a as ih =>
    obtain ⟨first, rest⟩ := List.forall_mem_cons.mp each
    rw [List.map_cons]
    unfold parseEach
    rw [first, Fallible.ok_bind, ih rest]
    rfl

theorem parseCondition_eq_ok {data : Fields} {path : Str} {c : Condition}
    (read : parseCondition py data path = .ok c) :
    textOf py (data.get "comparison") = lit (comparisonName c.comparison) ∧
      parseOperand py (data.get "left") (path ++ lit ".left") = .ok c.left ∧
      parseOperand py (data.get "right") (path ++ lit ".right") = .ok c.right ∧
      c.Comparable := by
  obtain ⟨_, -, read⟩ := Fallible.bind_eq_ok.mp read
  split at read
  · cases read
  · rename_i comparison chosen
    obtain ⟨left, first, read⟩ := Fallible.bind_eq_ok.mp read
    obtain ⟨right, second, read⟩ := Fallible.bind_eq_ok.mp read
    obtain ⟨_, checked, read⟩ := Fallible.bind_eq_ok.mp read
    cases read
    exact ⟨choose_eq_some chosen, first, second, (checkComparable_eq_ok comparison).mp checked⟩

inductive GroupRead (py : Python) (parse : Json → Str → Parse Node) (data : Fields) : Node → Prop
  | not (child : Json) (f : Node) (path : Str)
      (joiner : textOf py (data.get "logical") = lit Logical.not_.name)
      (children : data.get "children" = .arr [child]) (read : parse child path = .ok f) :
      GroupRead py parse data (.not f)
  | all (children : List Json) (fs : List Node) (path : Str)
      (joiner : textOf py (data.get "logical") = lit Logical.and_.name)
      (given : data.get "children" = .arr children) (several : 2 ≤ children.length)
      (read : parseEach parse path 0 children = .ok fs) : GroupRead py parse data (.all fs)
  | any (children : List Json) (fs : List Node) (path : Str)
      (joiner : textOf py (data.get "logical") = lit Logical.or_.name)
      (given : data.get "children" = .arr children) (several : 2 ≤ children.length)
      (read : parseEach parse path 0 children = .ok fs) : GroupRead py parse data (.any fs)

theorem parseGroup_eq_ok {parse : Json → Str → Parse Node} {data : Fields} {path : Str} {n : Node}
    (read : parseGroup py parse data path = .ok n) : GroupRead py parse data n := by
  obtain ⟨_, -, read⟩ := Fallible.bind_eq_ok.mp read
  split at read
  · cases read
  · rename_i logical chosen
    split at read
    · rename_i first rest given
      cases logical with
      | not_ =>
        cases rest with
        | nil =>
          obtain ⟨f, inner, read⟩ := Fallible.bind_eq_ok.mp read
          cases read
          exact .not first f _ (choose_eq_some chosen) given inner
        | cons second rest => cases read
      | and_ =>
        cases rest with
        | nil => cases read
        | cons second rest =>
          obtain ⟨fs, inner, read⟩ := Fallible.bind_eq_ok.mp read
          cases read
          exact .all _ fs _ (choose_eq_some chosen) given (by simp) inner
      | or_ =>
        cases rest with
        | nil => cases read
        | cons second rest =>
          obtain ⟨fs, inner, read⟩ := Fallible.bind_eq_ok.mp read
          cases read
          exact .any _ fs _ (choose_eq_some chosen) given (by simp) inner
    · cases read

theorem parseNode_eq_ok {levels : ℕ} {payload : Json} {path : Str} {n : Node}
    (read : parseNode py (levels + 1) payload path = .ok n) :
    ∃ data : Fields, payload = .obj data ∧
      ((isText (data.get "type") "condition" = true ∧
          ∃ c, n = .atom c ∧ parseCondition py data path = .ok c) ∨
        isText (data.get "type") "condition" = false ∧
          isText (data.get "type") "group" = true ∧ GroupRead py (parseNode py levels) data n) := by
  obtain ⟨data, required, read⟩ := Fallible.bind_eq_ok.mp read
  refine ⟨data, require_eq_ok.mp required, ?_⟩
  split_ifs at read with condition group
  · obtain ⟨c, inner, read⟩ := Fallible.bind_eq_ok.mp read
    cases read
    exact Or.inl ⟨condition, c, rfl, inner⟩
  · exact Or.inr ⟨Bool.eq_false_iff.mpr condition, group, parseGroup_eq_ok read⟩
  · cases read

theorem parseNode_formed {levels : ℕ} {payload : Json} {path : Str} {n : Node}
    (read : parseNode py levels payload path = .ok n) : Formed levels n := by
  induction levels generalizing payload path n with
  | zero => cases read
  | succ levels ih =>
    have each : ∀ {vs : List Json} {fs : List Node} {path : Str},
        parseEach (parseNode py levels) path 0 vs = .ok fs → ∀ f ∈ fs, Formed levels f := by
      intro vs fs path reads f mem
      obtain ⟨v, path, read⟩ := parseEach_mem reads f mem
      exact ih read
    obtain ⟨data, -, ⟨-, c, rfl, inner⟩ | ⟨-, -, group⟩⟩ := parseNode_eq_ok read
    · obtain ⟨-, left, right, comparable⟩ := parseCondition_eq_ok inner
      exact ⟨parseOperand_formed left, parseOperand_formed right, comparable⟩
    · cases group with
      | not child f path joiner children inner => exact ih inner
      | all children fs path joiner given several inner
      | any children fs path joiner given several inner =>
        exact ⟨(parseEach_eq_ok inner).length_eq ▸ several, each inner⟩

theorem validateParams_period_eq (ref : Indicator) (period : ℤ) (path : Str) :
    validateParams py ref (.obj [(lit "period", .int period)]) path =
      match validatePeriod (.int period) with
      | .ok period => .ok period
      | .error reason => refuse (path ++ lit ": " ++ reason) :=
  rfl

theorem validateParams_period {ref : Indicator} {period : ℤ}
    (bounds : 2 ≤ period ∧ period ≤ 500) (path : Str) :
    validateParams py ref (.obj [(lit "period", .int period)]) path = .ok period := by
  have valid : validatePeriod (.int period) = .ok period := if_pos bounds
  rw [validateParams_period_eq, valid]

theorem parseOperand_asDict {o : Operand} (formed : o.Formed) (path : Str) :
    parseOperand py o.asDict path = .ok o := by
  cases o with
  | indicator ref period =>
    have dict : (Operand.indicator ref period).asDict = .obj [(lit "kind", .str (lit "indicator")),
        (lit "ref", .str (lit ref.key)), (lit "params", .obj [(lit "period", .int period)]),
        (lit "value", .null)] := rfl
    have read : parseOperand py (.obj [(lit "kind", .str (lit "indicator")),
        (lit "ref", .str (lit ref.key)), (lit "params", .obj [(lit "period", .int period)]),
        (lit "value", .null)]) path =
          (validateParams py ref (.obj [(lit "period", .int period)]) path).bind fun period =>
            .ok (.indicator ref period) := by
      cases ref <;> rfl
    rw [dict, read, validateParams_period formed]
    rfl
  | price ref => cases ref <;> rfl
  | constant value =>
    have dict : (Operand.constant value).asDict = .obj [(lit "kind", .str (lit "constant")),
        (lit "ref", .str (lit "")), (lit "params", .obj []), (lit "value", .float value)] := rfl
    rw [dict]
    rfl

theorem parseCondition_asDict_eq (c : Condition) (path : Str) :
    parseCondition py [(lit "type", .str (lit "condition")), (lit "left", c.left.asDict),
      (lit "comparison", .str (lit (comparisonName c.comparison))), (lit "right", c.right.asDict)]
        path =
      match choose comparisons comparisonName (lit (comparisonName c.comparison)) with
      | none => refuse (path ++ lit (".comparison must be one of " ++
          commaList (comparisons.map comparisonName) ++ ", not ") ++
            reprOf py (.str (lit (comparisonName c.comparison))))
      | some comparison => do
        let left ← parseOperand py c.left.asDict (path ++ lit ".left")
        let right ← parseOperand py c.right.asDict (path ++ lit ".right")
        checkComparable py left right path
        return { left, comparison, right } :=
  rfl

theorem parseCondition_asDict {c : Condition} (formed : c.Formed) (path : Str) :
    parseCondition py [(lit "type", .str (lit "condition")), (lit "left", c.left.asDict),
      (lit "comparison", .str (lit (comparisonName c.comparison))), (lit "right", c.right.asDict)]
        path = .ok c := by
  rw [parseCondition_asDict_eq, choose_comparison]
  dsimp only
  rw [parseOperand_asDict formed.left, Fallible.ok_bind, parseOperand_asDict formed.right,
    Fallible.ok_bind, (checkComparable_eq_ok c.comparison).mpr formed.comparable]
  rfl

def groupFields (logical : Logical) (children : List Json) : Fields :=
  [(lit "type", .str (lit "group")), (lit "logical", .str (lit logical.name)),
    (lit "children", .arr children)]

theorem parseNode_groupDict (levels : ℕ) (logical : Logical) (children : List Json) (path : Str) :
    parseNode py (levels + 1) (groupDict logical children) path =
      parseGroup py (parseNode py levels) (groupFields logical children) path := rfl

section Group

variable {parse : Json → Str → Parse Node} {fs : List Node}

theorem parseGroup_not {f : Node} (each : ∀ path, parse f.asDict path = .ok f) (path : Str) :
    parseGroup py parse (groupFields .not_ [f.asDict]) path = .ok (.not f) := by
  have read : parseGroup py parse (groupFields .not_ [f.asDict]) path =
      (parse f.asDict (path ++ lit ".children[0]")).bind fun f => .ok (.not f) := rfl
  rw [read, each]
  rfl

theorem parseGroup_all (several : 2 ≤ fs.length)
    (each : ∀ f ∈ fs, ∀ path, parse f.asDict path = .ok f) (path : Str) :
    parseGroup py parse (groupFields .and_ (fs.map Node.asDict)) path = .ok (.all fs) := by
  rcases fs with _ | ⟨first, _ | ⟨second, rest⟩⟩
  · exact absurd several (by decide)
  · exact absurd several (by simp)
  · have read : parseGroup py parse
        (groupFields .and_ ((first :: second :: rest).map Node.asDict)) path =
        (parseEach parse (path ++ lit ".children") 0
          ((first :: second :: rest).map Node.asDict)).bind fun fs => .ok (.all fs) := rfl
    rw [read, parseEach_of_each each]
    rfl

theorem parseGroup_any (several : 2 ≤ fs.length)
    (each : ∀ f ∈ fs, ∀ path, parse f.asDict path = .ok f) (path : Str) :
    parseGroup py parse (groupFields .or_ (fs.map Node.asDict)) path = .ok (.any fs) := by
  rcases fs with _ | ⟨first, _ | ⟨second, rest⟩⟩
  · exact absurd several (by decide)
  · exact absurd several (by simp)
  · have read : parseGroup py parse
        (groupFields .or_ ((first :: second :: rest).map Node.asDict)) path =
        (parseEach parse (path ++ lit ".children") 0
          ((first :: second :: rest).map Node.asDict)).bind fun fs => .ok (.any fs) := rfl
    rw [read, parseEach_of_each each]
    rfl

end Group

theorem parseNode_asDict {levels : ℕ} {n : Node} (formed : Formed levels n) (path : Str) :
    parseNode py levels n.asDict path = .ok n := by
  induction levels generalizing n path with
  | zero => exact formed.elim
  | succ levels ih =>
    unfold Node.asDict
    cases n with
    | atom c =>
      rw [Formula.fold_atom]
      have read : parseNode py (levels + 1) c.asDict path = (parseCondition py
          [(lit "type", .str (lit "condition")), (lit "left", c.left.asDict),
            (lit "comparison", .str (lit (comparisonName c.comparison))),
            (lit "right", c.right.asDict)] path).bind fun c => .ok (.atom c) := rfl
      rw [read, parseCondition_asDict formed]
      rfl
    | not f =>
      rw [Formula.fold_not, parseNode_groupDict]
      exact parseGroup_not (fun path => ih formed path) path
    | all fs =>
      rw [Formula.fold_all, parseNode_groupDict]
      exact parseGroup_all formed.1 (fun f mem path => ih (formed.2 f mem) path) path
    | any fs =>
      rw [Formula.fold_any, parseNode_groupDict]
      exact parseGroup_any formed.1 (fun f mem path => ih (formed.2 f mem) path) path

theorem comparable_of_formed {levels : ℕ} {n : Node} (formed : Formed levels n) :
    ∀ c ∈ n.conditions, c.Comparable := by
  induction levels generalizing n with
  | zero => exact formed.elim
  | succ levels ih =>
    unfold Node.conditions
    cases n with
    | atom c =>
      exact List.forall_mem_singleton.mpr formed.comparable
    | not f =>
      rw [Formula.fold_not]
      exact ih formed
    | all fs =>
      rw [Formula.fold_all, ← List.flatMap_def]
      intro c mem
      obtain ⟨f, member, inside⟩ := List.mem_flatMap.mp mem
      exact ih (formed.2 f member) c inside
    | any fs =>
      rw [Formula.fold_any, ← List.flatMap_def]
      intro c mem
      obtain ⟨f, member, inside⟩ := List.mem_flatMap.mp mem
      exact ih (formed.2 f member) c inside

structure Rule.Formed (allowed : List SignalType) (r : Rule) : Prop where
  when_ : Payload.Formed levels r.when_
  then_ : r.then_ ∈ allowed

theorem parseRule_eq_ok {allowed : List SignalType} {payload : Json} {path : Str} {r : Rule}
    (read : parseRule py allowed payload path = .ok r) :
    ∃ data : Fields, payload = .obj data ∧ textOf py (data.get "then") = lit r.then_.name ∧
      r.then_ ∈ allowed ∧ parseNode py levels (data.get "when") (path ++ lit ".when") =
        .ok r.when_ := by
  obtain ⟨data, required, read⟩ := Fallible.bind_eq_ok.mp read
  obtain ⟨_, -, read⟩ := Fallible.bind_eq_ok.mp read
  refine ⟨data, require_eq_ok.mp required, ?_⟩
  split at read
  · cases read
  · rename_i action chosen
    by_cases permitted : action ∈ allowed
    · rw [if_neg (not_not.mpr permitted)] at read
      obtain ⟨n, inner, read⟩ := Fallible.bind_eq_ok.mp read
      cases read
      exact ⟨choose_eq_some chosen, permitted, inner⟩
    · rw [if_pos permitted] at read
      cases read

theorem parseRule_formed {allowed : List SignalType} {payload : Json} {path : Str} {r : Rule}
    (read : parseRule py allowed payload path = .ok r) : r.Formed allowed := by
  obtain ⟨data, -, -, permitted, inner⟩ := parseRule_eq_ok read
  exact ⟨parseNode_formed inner, permitted⟩

theorem parseRule_asDict_eq (allowed : List SignalType) (r : Rule) (path : Str) :
    parseRule py allowed r.asDict path =
      match choose signalTypes SignalType.name (lit r.then_.name) with
      | none =>
        refuse (path ++ lit (".then must be one of " ++
          commaList (allowed.map SignalType.name) ++ ", not ") ++
            reprOf py (.str (lit r.then_.name)))
      | some action =>
        if action ∉ allowed then
          refuse (path ++ lit (s!".then may not be {action.name} here; allowed: " ++
            commaList (allowed.map SignalType.name)))
        else do return ⟨← parseNode py levels r.when_.asDict (path ++ lit ".when"), action⟩ :=
  rfl

theorem parseRule_asDict {allowed : List SignalType} {r : Rule} (formed : r.Formed allowed)
    (path : Str) : parseRule py allowed r.asDict path = .ok r := by
  rw [parseRule_asDict_eq, choose_signalType]
  dsimp only
  rw [if_neg (not_not.mpr formed.then_), parseNode_asDict formed.when_]
  rfl

structure HeaderRead (py : Python) (data : Fields) (h : Header) : Prop where
  name : string data "name" (lit "definition") 120 = .ok h.name
  symbol : ∃ s, string data "symbol" (lit "definition") 32 = .ok s ∧ h.symbol = py.upper s
  description : parseDescription (data.get "description") = .ok h.description
  timeframe : ∃ t, string data "timeframe" (lit "definition") 8 = .ok t ∧
    parseTimeframe py t = .ok h.timeframe
  entries : entriesOf (data.get "entry_rules") = .ok h.entries
  exits : exitsOf (data.get "exit_rules") = .ok h.exits

theorem parseHeader_eq_ok {payload : Json} {h : Header} (read : parseHeader py payload = .ok h) :
    ∃ data, payload = .obj data ∧ HeaderRead py data h := by
  obtain ⟨data, required, read⟩ := Fallible.bind_eq_ok.mp read
  obtain ⟨_, -, read⟩ := Fallible.bind_eq_ok.mp read
  obtain ⟨name, named, read⟩ := Fallible.bind_eq_ok.mp read
  obtain ⟨symbol, traded, read⟩ := Fallible.bind_eq_ok.mp read
  obtain ⟨description, described, read⟩ := Fallible.bind_eq_ok.mp read
  obtain ⟨t, timed, read⟩ := Fallible.bind_eq_ok.mp read
  obtain ⟨timeframe, framed, read⟩ := Fallible.bind_eq_ok.mp read
  obtain ⟨entries, entering, read⟩ := Fallible.bind_eq_ok.mp read
  obtain ⟨exits, leaving, read⟩ := Fallible.bind_eq_ok.mp read
  cases read
  exact ⟨data, require_eq_ok.mp required, named, ⟨symbol, traded, rfl⟩, described,
    ⟨t, timed, framed⟩, entering, leaving⟩

structure DefinitionRead (py : Python) (h : Header) (d : StrategyDefinition) : Prop where
  header : d.name = h.name ∧ d.symbol = h.symbol ∧ d.description = h.description ∧
    d.timeframe = h.timeframe
  entries : parseEach (parseRule py entryActions) (lit "entry_rules") 0 h.entries =
    .ok d.entryRules
  exits : parseEach (parseRule py exitActions) (lit "exit_rules") 0 h.exits = .ok d.exitRules
  small : ((d.entryRules ++ d.exitRules).map fun r => r.when_.countConditions).sum ≤ maxConditions

theorem parseDefinition_eq_ok {payload : Json} {d : StrategyDefinition}
    (read : parseDefinition py payload = .ok d) :
    ∃ h, parseHeader py payload = .ok h ∧ DefinitionRead py h d := by
  obtain ⟨h, headed, read⟩ := Fallible.bind_eq_ok.mp read
  obtain ⟨entryRules, enters, read⟩ := Fallible.bind_eq_ok.mp read
  obtain ⟨exitRules, leaves, read⟩ := Fallible.bind_eq_ok.mp read
  dsimp only at read
  split_ifs at read with many
  · cases read
  · cases read
    exact ⟨h, headed, ⟨rfl, rfl, rfl, rfl⟩, enters, leaves, not_lt.mp many⟩

structure StrategyDefinition.Formed (py : Python) (d : StrategyDefinition) : Prop where
  name : strip d.name = d.name ∧ d.name ≠ [] ∧ d.name.length ≤ 120
  symbol : strip d.symbol = d.symbol ∧ d.symbol ≠ [] ∧ py.upper d.symbol = d.symbol
  description : d.description.length ≤ 1000
  timeframe : py.upper (lit d.timeframe.name) = lit d.timeframe.name
  entries : d.entryRules ≠ [] ∧ d.entryRules.length ≤ maxRules ∧
    ∀ r ∈ d.entryRules, r.Formed entryActions
  exits : d.exitRules.length ≤ maxRules ∧ ∀ r ∈ d.exitRules, r.Formed exitActions
  small : ((d.entryRules ++ d.exitRules).map fun r => r.when_.countConditions).sum ≤ maxConditions

theorem parseDescription_eq_ok {v : Json} {s : Str} (read : parseDescription v = .ok s) :
    v.or (.str []) = .str s ∧ s.length ≤ 1000 := by
  unfold parseDescription at read
  split at read
  · rename_i s' is
    split_ifs at read with long
    · cases read
    · cases read
      exact ⟨is, not_lt.mp long⟩
  · cases read

theorem entriesOf_eq_ok {v : Json} {rules : List Json} (read : entriesOf v = .ok rules) :
    v = .arr rules ∧ rules ≠ [] ∧ rules.length ≤ maxRules := by
  unfold entriesOf at read
  split at read
  · rename_i first rest
    split_ifs at read with many
    · cases read
    · cases read
      exact ⟨rfl, List.cons_ne_nil _ _, not_lt.mp many⟩
  · cases read

theorem exitsOf_eq_ok {v : Json} {rules : List Json} (read : exitsOf v = .ok rules) :
    v.or (.arr []) = .arr rules ∧ rules.length ≤ maxRules := by
  unfold exitsOf at read
  split at read
  · rename_i rules' is
    split_ifs at read with many
    · cases read
    · cases read
      exact ⟨is, not_lt.mp many⟩
  · cases read

theorem parseTimeframe_eq_ok {value : Str} {timeframe : Timeframe}
    (read : parseTimeframe py value = .ok timeframe) :
    py.upper (strip value) = lit timeframe.name := by
  unfold parseTimeframe at read
  split at read
  · rename_i chosen
    cases read
    exact choose_eq_some chosen
  · cases read

theorem parseDefinition_formed {payload : Json} {d : StrategyDefinition} (lawful : py.Lawful)
    (read : parseDefinition py payload = .ok d) : d.Formed py := by
  obtain ⟨h, headed, ⟨name, symbol, description, timeframe⟩, enters, leaves, small⟩ :=
    parseDefinition_eq_ok read
  obtain ⟨data, -, named, ⟨t, traded, is⟩, described, ⟨t', -, framed⟩, entering, leaving⟩ :=
    parseHeader_eq_ok headed
  obtain ⟨name', -, some_, short, stripped⟩ := string_eq_ok.mp named
  obtain ⟨symbol', -, some_', -, stripped'⟩ := string_eq_ok.mp traded
  obtain ⟨-, one, few⟩ := entriesOf_eq_ok entering
  have framed := parseTimeframe_eq_ok framed
  have count := (parseEach_eq_ok enters).length_eq
  have count' := (parseEach_eq_ok leaves).length_eq
  refine
    { name := ?_, symbol := ?_, description := ?_, timeframe := ?_
      entries := ⟨?_, count ▸ few, ?_⟩, exits := ⟨count' ▸ (exitsOf_eq_ok leaving).2, ?_⟩, small }
  · rw [name, ← stripped]
    exact ⟨strip_strip name', some_, (length_strip_le name').trans short⟩
  · rw [symbol, is, ← stripped']
    exact ⟨lawful.strip_upper symbol', fun none_ => some_' (lawful.upper_eq_nil _ none_),
      lawful.upper_upper _⟩
  · rw [description]
    exact (parseDescription_eq_ok described).2
  · rw [timeframe, ← framed]
    exact lawful.upper_upper _
  · intro none_
    rw [none_] at count
    exact one (List.length_eq_zero_iff.mp count)
  · intro r mem
    obtain ⟨v, path, inner⟩ := parseEach_mem enters r mem
    exact parseRule_formed inner
  · intro r mem
    obtain ⟨v, path, inner⟩ := parseEach_mem leaves r mem
    exact parseRule_formed inner

def StrategyDefinition.fields (d : StrategyDefinition) : Fields :=
  [(lit "name", .str d.name), (lit "description", .str d.description),
    (lit "symbol", .str d.symbol), (lit "timeframe", .str (lit d.timeframe.name)),
    (lit "entry_rules", .arr (d.entryRules.map Rule.asDict)),
    (lit "exit_rules", .arr (d.exitRules.map Rule.asDict))]

theorem string_of_stripped {payload : Fields} {key : String} {path : Str} {most : ℕ} {s : Str}
    (is : payload.get key = .str s) (stripped : strip s = s) (some_ : s ≠ [])
    (short : s.length ≤ most) : string payload key path most = .ok s :=
  string_eq_ok.mpr ⟨s, is, stripped.symm ▸ some_, short, stripped⟩

theorem parseDescription_str {s : Str} (short : s.length ≤ 1000) :
    parseDescription (.str s) = .ok s := by
  cases s with
  | nil => rfl
  | cons c cs => exact if_neg (not_lt.mpr short)

theorem exitsOf_arr {rules : List Json} (few : rules.length ≤ maxRules) :
    exitsOf (.arr rules) = .ok rules := by
  cases rules with
  | nil => rfl
  | cons first rest => exact if_neg (not_lt.mpr few)

theorem entriesOf_arr {rules : List Json} (one : rules ≠ []) (few : rules.length ≤ maxRules) :
    entriesOf (.arr rules) = .ok rules := by
  cases rules with
  | nil => exact absurd rfl one
  | cons first rest => exact if_neg (not_lt.mpr few)

theorem parseHeader_toPayload {d : StrategyDefinition} (formed : d.Formed py)
    (fits : d.symbol.length ≤ 32) :
    parseHeader py d.toPayload = .ok
      { name := d.name, symbol := d.symbol, description := d.description, timeframe := d.timeframe
        entries := d.entryRules.map Rule.asDict, exits := d.exitRules.map Rule.asDict } := by
  obtain ⟨⟨name, some_, short⟩, ⟨symbol, some_', upper⟩, described, framed, ⟨one, few, -⟩,
    ⟨few', -⟩, -⟩ := formed
  have payload : d.toPayload = .obj d.fields := rfl
  have known : noUnknown py d.fields ["name", "description", "symbol", "timeframe", "entry_rules",
    "exit_rules"] (lit "definition") = .ok () := rfl
  have timed : string d.fields "timeframe" (lit "definition") 8 =
      .ok (lit d.timeframe.name) := by
    refine string_of_stripped rfl ?_ ?_ ?_ <;> cases d.timeframe <;> decide +kernel
  have timeframe : parseTimeframe py (lit d.timeframe.name) = .ok d.timeframe := by
    have stripped : strip (lit d.timeframe.name) = lit d.timeframe.name := by
      cases d.timeframe <;> decide +kernel
    unfold parseTimeframe
    rw [stripped, framed, choose_timeframe]
  have description : parseDescription (d.fields.get "description") = .ok d.description :=
    parseDescription_str described
  have entries : entriesOf (d.fields.get "entry_rules") = .ok (d.entryRules.map Rule.asDict) := by
    refine entriesOf_arr ?_ ?_
    · exact fun none_ => one (List.map_eq_nil_iff.mp none_)
    · exact few.trans_eq' (List.length_map _).symm
  have exits : exitsOf (d.fields.get "exit_rules") = .ok (d.exitRules.map Rule.asDict) :=
    exitsOf_arr (few'.trans_eq' (List.length_map _).symm)
  unfold parseHeader
  rw [payload, require_eq_ok.mpr rfl, Fallible.ok_bind, known, Fallible.ok_bind,
    string_of_stripped rfl name some_ short, Fallible.ok_bind,
    string_of_stripped rfl symbol some_' fits, Fallible.ok_bind, description, Fallible.ok_bind,
    timed, Fallible.ok_bind, timeframe, Fallible.ok_bind, entries, Fallible.ok_bind, exits,
    Fallible.ok_bind, upper]
  rfl

theorem parseDefinition_toPayload {d : StrategyDefinition} (formed : d.Formed py)
    (fits : d.symbol.length ≤ 32) : parseDefinition py d.toPayload = .ok d := by
  have entering : parseEach (parseRule py entryActions) (lit "entry_rules") 0
      (d.entryRules.map Rule.asDict) = .ok d.entryRules :=
    parseEach_of_each fun r mem path => parseRule_asDict (formed.entries.2.2 r mem) path
  have leaving : parseEach (parseRule py exitActions) (lit "exit_rules") 0
      (d.exitRules.map Rule.asDict) = .ok d.exitRules :=
    parseEach_of_each fun r mem path => parseRule_asDict (formed.exits.2 r mem) path
  unfold parseDefinition
  rw [parseHeader_toPayload formed fits, Fallible.ok_bind, entering, Fallible.ok_bind, leaving,
    Fallible.ok_bind]
  rw [if_neg (not_lt.mpr formed.small)]
  rfl

theorem parseDefinition_toPayload_iff {d : StrategyDefinition} (formed : d.Formed py) :
    parseDefinition py d.toPayload = .ok d ↔ d.symbol.length ≤ 32 := by
  constructor
  · intro read
    obtain ⟨h, headed, -⟩ := parseDefinition_eq_ok read
    obtain ⟨data, is, -, ⟨s, traded, -⟩, -⟩ := parseHeader_eq_ok headed
    cases is
    obtain ⟨s', given, -, short, -⟩ := string_eq_ok.mp traded
    cases given
    exact short
  · exact parseDefinition_toPayload formed

end Reading

end TradeResearch.Strategies.Payload
