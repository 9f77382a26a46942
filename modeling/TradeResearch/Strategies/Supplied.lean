import TradeResearch.Strategies.RoundTrip
import TradeResearch.Webhooks.World

/-!
# What a payload supplies

How a reading ends, and what of a payload is in the definition that is read.

* `Faulty` operands are left by another exception than a `DefinitionError`; `caught_parseNode` and
  its like: a reading is, at the first faulty operand it meets.
* `Plain` operands supply nothing that their kind does not use; `nodeSays_iff`: everything that was
  supplied is in the definition where every operand is plain.
* `sound_iff` puts these together with the round trip.
-/

namespace TradeResearch.Strategies.Payload

open Webhooks

/-! ## How a reading ends -/

def Caught {α : Type} (x : Parse α) : Prop :=
  ∀ fault, x = .error fault → ∃ reason, fault = .definition reason

theorem caught_ok {α : Type} (a : α) : Caught (.ok a) := by
  intro fault failed
  cases failed

theorem caught_refuse {α : Type} (reason : Str) : Caught (refuse reason : Parse α) := by
  intro fault failed
  cases failed
  exact ⟨reason, rfl⟩

theorem not_caught {α : Type} {fault : Fault} (other : ∀ reason, fault ≠ .definition reason) :
    ¬ Caught (.error fault : Parse α) := by
  intro caught
  obtain ⟨reason, is⟩ := caught fault rfl
  exact other reason is

theorem caught_bind {α β : Type} {x : Parse α} {f : α → Parse β} :
    Caught (x >>= f) ↔ Caught x ∧ ∀ a, x = .ok a → Caught (f a) := by
  constructor
  · intro caught
    constructor
    · intro fault failed
      exact caught fault (Fallible.bind_eq_error.mpr (Or.inl failed))
    · intro a is fault failed
      exact caught fault (Fallible.bind_eq_error.mpr (Or.inr ⟨a, is, failed⟩))
  · rintro ⟨first, rest⟩ fault failed
    rcases Fallible.bind_eq_error.mp failed with failed | ⟨a, is, failed⟩
    · exact first fault failed
    · exact rest a is fault failed

theorem caught_map {α β : Type} {x : Parse α} {f : α → β} :
    Caught (x >>= fun a => pure (f a)) ↔ Caught x :=
  caught_bind.trans (and_iff_left fun a _ => caught_ok (f a))

section Reading

variable {py : Python}

theorem caught_require (payload : Json) (path : Str) : Caught (require payload path) := by
  unfold require
  split
  · exact caught_ok _
  · exact caught_refuse _

def known (payload : Fields) (allowed : List String) : Bool :=
  payload.all fun f => allowed.any fun key => f.1 = lit key

theorem noUnknown_eq (payload : Fields) (allowed : List String) (path : Str) :
    Caught (noUnknown py payload allowed path) ∧
      (noUnknown py payload allowed path = .ok () ↔ known payload allowed = true) := by
  have same : (payload.filter fun f => allowed.all fun key => f.1 ≠ lit key).isEmpty =
      known payload allowed := by
    rw [Bool.eq_iff_iff]
    simp [known, List.filter_eq_nil_iff]
  unfold noUnknown
  dsimp only
  rw [same]
  cases known payload allowed with
  | false =>
    refine ⟨caught_refuse _, iff_of_false (fun read => ?_) Bool.false_ne_true⟩
    cases read
  | true => exact ⟨caught_ok _, iff_of_true rfl rfl⟩

theorem caught_noUnknown_bind {α : Type} {payload : Fields} {allowed : List String} {path : Str}
    {rest : Parse α} :
    Caught (noUnknown py payload allowed path >>= fun _ => rest) ↔
      (known payload allowed = true → Caught rest) := by
  obtain ⟨caught, passes⟩ := @noUnknown_eq py payload allowed path
  rw [caught_bind, and_iff_right caught]
  exact ⟨fun each here => each () (passes.mpr here), fun each a read => each (passes.mp read)⟩

theorem caught_require_bind {α : Type} {payload : Json} {path : Str} {rest : Fields → Parse α} :
    Caught (require payload path >>= rest) ↔ ∀ data, payload = .obj data → Caught (rest data) := by
  rw [caught_bind, and_iff_right (caught_require payload path)]
  exact forall_congr' fun data => by rw [require_eq_ok]

/-! ## Faulty operands -/

def FaultyParams : Json → Prop
  | .obj _ => False
  | .str _ => False
  | .arr values =>
    values.all hashable = false ∨ (∀ v ∈ values, isText v "period" = true) ∨
      sortable (values.filter fun v => !isText v "period") = false
  | _ => True

def operandFields : List String := ["kind", "ref", "params", "value"]

def Faulty (py : Python) (payload : Json) : Prop :=
  ∃ data : Fields, payload = .obj data ∧ known data operandFields = true ∧
    (textOf py (data.get "kind") = lit "constant" ∧
        (∃ i, data.get "value" = .int i ∧ py.float i = none) ∨
      textOf py (data.get "kind") = lit "indicator" ∧
        (∃ ref : Indicator, data.get "ref" = .str (lit ref.key)) ∧
          FaultyParams ((data.get "params").or (.obj [])))

theorem caught_validateParams {ref : Indicator} {given : Json} {path : Str} :
    Caught (validateParams py ref given path) ↔ ¬ FaultyParams given := by
  cases given with
  | obj fields =>
    refine iff_of_true ?_ not_false
    unfold validateParams
    dsimp only
    split_ifs
    · split
      · exact caught_ok _
      · split
        · exact caught_ok _
        · exact caught_refuse _
    · exact caught_refuse _
  | str s => exact iff_of_true (caught_refuse _) not_false
  | arr values =>
    have none_left : (values.filter fun v => !isText v "period").isEmpty = true ↔
        ∀ v ∈ values, isText v "period" = true := by
      simp [List.filter_eq_nil_iff]
    unfold validateParams FaultyParams
    dsimp only
    rw [← none_left]
    split_ifs with hashed empty sorts
    · exact iff_of_false (not_caught (by intro _ h; cases h)) (not_not.mpr (Or.inr (Or.inl empty)))
    · refine iff_of_true (caught_refuse _) ?_
      rintro (unhashed | empty' | unsorted)
      · exact Bool.noConfusion (hashed.symm.trans unhashed)
      · exact empty empty'
      · exact Bool.noConfusion (sorts.symm.trans unsorted)
    · exact iff_of_false (not_caught (by intro _ h; cases h))
        (not_not.mpr (Or.inr (Or.inr (Bool.eq_false_iff.mpr sorts))))
    · exact iff_of_false (not_caught (by intro _ h; cases h))
        (not_not.mpr (Or.inl (Bool.eq_false_iff.mpr hashed)))
  | null | bool b | int i =>
      exact iff_of_false (not_caught (by intro _ h; cases h)) (not_not.mpr trivial)
  | float f => exact iff_of_false (not_caught (by intro _ h; cases h)) (not_not.mpr trivial)

theorem not_caught_constant {i : ℤ} (huge : py.float i = none) :
    ¬ Caught (match py.float i with
      | some value => pure (.constant value)
      | none => throw .overflow : Parse Operand) := by
  rw [huge]
  exact not_caught fun _ same => by cases same

theorem caught_parseOperand {payload : Json} {path : Str} :
    Caught (parseOperand py payload path) ↔ ¬ Faulty py payload := by
  unfold parseOperand
  rw [caught_require_bind]
  constructor
  · rintro caught ⟨data, is, fields, faulty⟩
    have caught := caught_noUnknown_bind.mp (caught data is) fields
    rcases faulty with ⟨kind, i, value, huge⟩ | ⟨kind, ⟨ref, named⟩, faulty⟩
    · rw [kind, value] at caught
      exact not_caught_constant huge caught
    · rw [kind, named] at caught
      have ends : Caught (validateParams py ref ((data.get "params").or (.obj [])) path >>=
          fun period => pure (Operand.indicator ref period)) := by
        cases ref <;> exact caught
      exact caught_validateParams.mp (caught_map.mp ends) faulty
  · intro sound data is
    refine caught_noUnknown_bind.mpr fun fields => ?_
    split
    · exact caught_refuse _
    · rename_i kind
      split
      · rename_i i value
        split
        · exact caught_ok _
        · rename_i huge
          exact absurd ⟨data, is, fields, Or.inl ⟨choose_eq_some kind, i, value, huge⟩⟩ sound
      · exact caught_ok _
      · exact caught_refuse _
    · split
      · split
        · exact caught_ok _
        · exact caught_refuse _
      · exact caught_refuse _
    · rename_i kind
      split
      · rename_i c cs named
        split
        · rename_i ref chosen
          refine caught_map.mpr (caught_validateParams.mpr fun faulty => sound ?_)
          exact ⟨data, is, fields, Or.inr ⟨choose_eq_some kind,
            ⟨ref, named.trans (congrArg Json.str (choose_eq_some chosen))⟩, faulty⟩⟩
        · exact caught_refuse _
      · exact caught_refuse _

/-! ## The operands a reading meets -/

section Met

variable (py)

def conditionMet (data : Fields) (path : Str) : List Json :=
  if known data ["type", "left", "comparison", "right"] ∧
      (choose comparisons comparisonName (textOf py (data.get "comparison"))).isSome then
    data.get "left" ::
      if (parseOperand py (data.get "left") (path ++ lit ".left")).isOk then [data.get "right"]
      else []
  else []

def eachMet {α : Type} (met : Json → Str → List Json) (parse : Json → Str → Parse α) (path : Str) :
    ℕ → List Json → List Json
  | _, [] => []
  | i, v :: vs =>
    met v (path ++ lit "[" ++ intText i ++ lit "]") ++
      if (parse v (path ++ lit "[" ++ intText i ++ lit "]")).isOk then
        eachMet met parse path (i + 1) vs
      else []

def groupMet (met : Json → Str → List Json) (parse : Json → Str → Parse Node) (data : Fields)
    (path : Str) : List Json :=
  if known data ["type", "logical", "children"] then
    match choose Logical.all Logical.name (textOf py (data.get "logical")), data.get "children" with
    | some .not_, .arr [child] => met child (path ++ lit ".children[0]")
    | some .not_, _ => []
    | some _, .arr (first :: second :: rest) =>
      eachMet met parse (path ++ lit ".children") 0 (first :: second :: rest)
    | _, _ => []
  else []

def operandsMet : ℕ → Json → Str → List Json
  | levels + 1, .obj data, path =>
    if isText (Fields.get data "type") "condition" then conditionMet py data path
    else if isText (Fields.get data "type") "group" then
      groupMet py (operandsMet levels) (parseNode py levels) data path
    else []
  | _, _, _ => []

def ruleMet (allowed : List SignalType) (payload : Json) (path : Str) : List Json :=
  match payload with
  | .obj data =>
    if known data ["when", "then"] ∧
        (choose signalTypes SignalType.name (textOf py (Fields.get data "then"))).any
          (· ∈ allowed) then
      operandsMet py levels (Fields.get data "when") (path ++ lit ".when")
    else []
  | _ => []

def definitionMet (payload : Json) : List Json :=
  match parseHeader py payload with
  | .ok header =>
    eachMet (ruleMet py entryActions) (parseRule py entryActions) (lit "entry_rules") 0
        header.entries ++
      if (parseEach (parseRule py entryActions) (lit "entry_rules") 0 header.entries).isOk then
        eachMet (ruleMet py exitActions) (parseRule py exitActions) (lit "exit_rules") 0
          header.exits
      else []
  | .error _ => []

end Met

def Sane (py : Python) (operands : List Json) : Prop := ∀ o ∈ operands, ¬ Faulty py o

theorem sane_nil : Sane py [] := fun _ mem => absurd mem List.not_mem_nil

theorem sane_cons {o : Json} {rest : List Json} :
    Sane py (o :: rest) ↔ ¬ Faulty py o ∧ Sane py rest := List.forall_mem_cons

theorem sane_append {first rest : List Json} :
    Sane py (first ++ rest) ↔ Sane py first ∧ Sane py rest := List.forall_mem_append

theorem sane_ite {α : Type} {x : Parse α} {rest : List Json} :
    Sane py (if x.isOk then rest else []) ↔ ∀ a, x = .ok a → Sane py rest := by
  cases x with
  | error fault => exact iff_of_true sane_nil fun a is => by cases is
  | ok a => exact ⟨fun sane _ _ => sane, fun each => each a rfl⟩

theorem caught_checkComparable (left right : Operand) (path : Str) :
    Caught (checkComparable py left right path) := by
  unfold checkComparable
  split_ifs
  · exact caught_refuse _
  · exact caught_ok _
  · exact caught_refuse _
  · exact caught_ok _

theorem caught_parseCondition {data : Fields} {path : Str} :
    Caught (parseCondition py data path) ↔ Sane py (conditionMet py data path) := by
  unfold parseCondition conditionMet
  rw [caught_noUnknown_bind]
  cases fields : known data ["type", "left", "comparison", "right"] with
  | false =>
    rw [if_neg (by simp)]
    exact iff_of_true (fun here => by cases here) sane_nil
  | true =>
    cases chosen : choose comparisons comparisonName (textOf py (data.get "comparison")) with
    | none =>
      rw [if_neg (by simp)]
      exact iff_of_true (fun _ => caught_refuse _) sane_nil
    | some comparison =>
      rw [if_pos (by simp), sane_cons, sane_ite, forall_prop_of_true rfl]
      dsimp only
      rw [caught_bind, caught_parseOperand]
      refine and_congr_right fun _ => forall_congr' fun left => forall_congr' fun _ => ?_
      rw [caught_bind, caught_parseOperand, sane_cons]
      refine and_congr_right fun _ => iff_of_true (fun right _ => ?_) sane_nil
      exact caught_bind.mpr ⟨caught_checkComparable _ _ _, fun _ _ => caught_ok _⟩

theorem caught_parseEach {α : Type} {met : Json → Str → List Json} {parse : Json → Str → Parse α}
    (each : ∀ v path, Caught (parse v path) ↔ Sane py (met v path)) {path : Str} {i : ℕ}
    {vs : List Json} :
    Caught (parseEach parse path i vs) ↔ Sane py (eachMet met parse path i vs) := by
  induction vs generalizing i with
  | nil => exact iff_of_true (caught_ok _) sane_nil
  | cons v vs ih =>
    unfold parseEach eachMet
    rw [caught_bind, sane_append, sane_ite, each]
    refine and_congr_right fun _ => forall_congr' fun a => forall_congr' fun _ => ?_
    exact caught_map.trans ih

theorem caught_parseGroup {met : Json → Str → List Json} {parse : Json → Str → Parse Node}
    (each : ∀ v path, Caught (parse v path) ↔ Sane py (met v path)) {data : Fields} {path : Str} :
    Caught (parseGroup py parse data path) ↔ Sane py (groupMet py met parse data path) := by
  unfold parseGroup groupMet
  rw [caught_noUnknown_bind]
  cases fields : known data ["type", "logical", "children"] with
  | false =>
    rw [if_neg Bool.false_ne_true]
    exact iff_of_true (fun here => by cases here) sane_nil
  | true =>
    rw [if_pos rfl, forall_prop_of_true rfl]
    cases chosen : choose Logical.all Logical.name (textOf py (data.get "logical")) with
    | none => exact iff_of_true (caught_refuse _) sane_nil
    | some logical =>
      dsimp only
      cases given : data.get "children" with
      | arr children =>
        cases logical with
        | not_ =>
          rcases children with _ | ⟨child, _ | ⟨second, rest⟩⟩
          · exact iff_of_true (caught_refuse _) sane_nil
          · exact caught_map.trans (each child _)
          · exact iff_of_true (caught_refuse _) sane_nil
        | and_ | or_ =>
          rcases children with _ | ⟨child, _ | ⟨second, rest⟩⟩
          · exact iff_of_true (caught_refuse _) sane_nil
          · exact iff_of_true (caught_refuse _) sane_nil
          · exact caught_map.trans (caught_parseEach each)
      | _ => cases logical <;> exact iff_of_true (caught_refuse _) sane_nil

theorem caught_parseNode {levels : ℕ} {payload : Json} {path : Str} :
    Caught (parseNode py levels payload path) ↔ Sane py (operandsMet py levels payload path) := by
  induction levels generalizing payload path with
  | zero => exact iff_of_true (caught_refuse _) sane_nil
  | succ levels ih =>
    cases payload with
    | obj data =>
      by_cases condition : isText (Fields.get data "type") "condition" = true
      · have ends : parseNode py (levels + 1) (.obj data) path =
            (parseCondition py data path >>= fun c => pure (.atom c)) := if_pos condition
        have met : operandsMet py (levels + 1) (.obj data) path = conditionMet py data path :=
          if_pos condition
        rw [ends, met]
        exact caught_map.trans caught_parseCondition
      · by_cases group : isText (Fields.get data "type") "group" = true
        · have ends : parseNode py (levels + 1) (.obj data) path =
              parseGroup py (parseNode py levels) data path :=
            (if_neg condition).trans (if_pos group)
          have met : operandsMet py (levels + 1) (.obj data) path =
              groupMet py (operandsMet py levels) (parseNode py levels) data path :=
            (if_neg condition).trans (if_pos group)
          rw [ends, met]
          exact caught_parseGroup fun v path => ih
        · have ends : parseNode py (levels + 1) (.obj data) path =
              refuse (path ++ lit ".type must be 'condition' or 'group', not " ++
                reprOf py (Fields.get data "type")) := (if_neg condition).trans (if_neg group)
          have met : operandsMet py (levels + 1) (.obj data) path = [] :=
            (if_neg condition).trans (if_neg group)
          rw [ends, met]
          exact iff_of_true (caught_refuse _) sane_nil
    | _ => exact iff_of_true (caught_refuse _) sane_nil

theorem caught_parseRule {allowed : List SignalType} {payload : Json} {path : Str} :
    Caught (parseRule py allowed payload path) ↔ Sane py (ruleMet py allowed payload path) := by
  unfold parseRule
  rw [caught_require_bind]
  cases payload with
  | obj data =>
    unfold ruleMet
    dsimp only
    constructor
    · intro caught
      have caught := caught_noUnknown_bind.mp (caught data rfl)
      split
      · rename_i here
        obtain ⟨fields, permitted⟩ := here
        have caught := caught fields
        cases chosen : choose signalTypes SignalType.name (textOf py (Fields.get data "then")) with
        | none =>
          rw [chosen] at permitted
          cases permitted
        | some action =>
          rw [chosen] at permitted caught
          have inside : action ∈ allowed := of_decide_eq_true permitted
          dsimp only at caught
          rw [if_neg (not_not.mpr inside)] at caught
          exact caught_parseNode.mp (caught_map.mp caught)
      · exact sane_nil
    · intro sane data' is
      cases is
      refine caught_noUnknown_bind.mpr fun fields => ?_
      cases chosen : choose signalTypes SignalType.name (textOf py (Fields.get data "then")) with
      | none => exact caught_refuse _
      | some action =>
        dsimp only
        by_cases inside : action ∈ allowed
        · rw [if_neg (not_not.mpr inside)]
          refine caught_map.mpr (caught_parseNode.mpr ?_)
          rw [if_pos ⟨fields, by rw [chosen]; exact decide_eq_true inside⟩] at sane
          exact sane
        · rw [if_pos inside]
          exact caught_refuse _
  | _ => exact iff_of_true (fun data is => by cases is) sane_nil

theorem caught_string (payload : Fields) (key : String) (path : Str) (most : ℕ) :
    Caught (string payload key path most) := by
  unfold string
  split
  · split_ifs
    · exact caught_refuse _
    · exact caught_refuse _
    · exact caught_ok _
  · exact caught_refuse _

theorem caught_parseDescription (v : Json) : Caught (parseDescription v) := by
  unfold parseDescription
  split
  · split_ifs
    · exact caught_refuse _
    · exact caught_ok _
  · exact caught_refuse _

theorem caught_parseTimeframe (value : Str) : Caught (parseTimeframe py value) := by
  unfold parseTimeframe
  split
  · exact caught_ok _
  · exact caught_refuse _

theorem caught_entriesOf (v : Json) : Caught (entriesOf v) := by
  unfold entriesOf
  split
  · split_ifs
    · exact caught_refuse _
    · exact caught_ok _
  · exact caught_refuse _

theorem caught_exitsOf (v : Json) : Caught (exitsOf v) := by
  unfold exitsOf
  split
  · split_ifs
    · exact caught_refuse _
    · exact caught_ok _
  · exact caught_refuse _

theorem caught_parseHeader (payload : Json) : Caught (parseHeader py payload) := by
  refine caught_require_bind.mpr fun data _ => caught_noUnknown_bind.mpr fun _ => ?_
  refine caught_bind.mpr ⟨caught_string _ _ _ _, fun name _ => ?_⟩
  refine caught_bind.mpr ⟨caught_string _ _ _ _, fun symbol _ => ?_⟩
  refine caught_bind.mpr ⟨caught_parseDescription _, fun description _ => ?_⟩
  refine caught_bind.mpr ⟨caught_string _ _ _ _, fun t _ => ?_⟩
  refine caught_bind.mpr ⟨caught_parseTimeframe t, fun timeframe _ => ?_⟩
  refine caught_bind.mpr ⟨caught_entriesOf _, fun entries _ => ?_⟩
  exact caught_bind.mpr ⟨caught_exitsOf _, fun exits _ => caught_ok _⟩

theorem caught_parseDefinition {payload : Json} :
    Caught (parseDefinition py payload) ↔ Sane py (definitionMet py payload) := by
  unfold parseDefinition definitionMet
  rw [caught_bind, and_iff_right (caught_parseHeader payload)]
  cases headed : parseHeader py payload with
  | error fault => exact iff_of_true (fun h is => by cases is) sane_nil
  | ok header =>
    have only : ∀ {P : Header → Prop}, (∀ h, (Except.ok header : Parse Header) = .ok h → P h) ↔
        P header := fun {P} =>
      ⟨fun each => each header rfl, fun here h is => Except.ok.inj is ▸ here⟩
    rw [only, sane_append, sane_ite, caught_bind,
      caught_parseEach fun v path => caught_parseRule]
    refine and_congr_right fun _ => forall_congr' fun entryRules => forall_congr' fun _ => ?_
    rw [caught_bind, caught_parseEach fun v path => caught_parseRule]
    refine and_iff_left fun exitRules _ => ?_
    dsimp only
    split_ifs
    · exact caught_refuse _
    · exact caught_ok _

/-! ## What is supplied -/

def Blank (v : Json) : Prop := v = .null ∨ v = .str [] ∨ v = .arr [] ∨ v = .obj []

structure OperandSays (py : Python) (data : Fields) (o : Operand) : Prop where
  kind : textOf py (data.get "kind") = lit o.kind.name
  ref : Blank (data.get "ref") ∨ data.get "ref" = .str (lit o.ref)
  params : Blank (data.get "params") ∨ ∃ given : Fields, data.get "params" = .obj given ∧
    ∀ key v, given.lookup key = some v → o.params.lookup key = some v
  value : Blank (data.get "value") ∨
    ∃ f, numberOf py (data.get "value") = some f ∧ o.value = .float f

def fieldsOf : Json → Fields
  | .obj fields => fields
  | _ => []

def PlainFields (py : Python) (data : Fields) : Prop :=
  match choose OperandKind.all OperandKind.name (textOf py (data.get "kind")) with
  | some .constant => Blank (data.get "ref") ∧ Blank (data.get "params")
  | some .price => Blank (data.get "params") ∧ Blank (data.get "value")
  | some .indicator =>
    (Blank (data.get "params") ∨ ∃ given, data.get "params" = .obj given) ∧
      Blank (data.get "value")
  | none => True

def Plain (py : Python) (payload : Json) : Prop := PlainFields py (fieldsOf payload)

theorem blank_of_no_params {v : Json}
    (supplied : Blank v ∨ ∃ given : Fields, v = .obj given ∧
      ∀ key x, given.lookup key = some x → ([] : Fields).lookup key = some x) : Blank v := by
  rcases supplied with blank | ⟨given, rfl, each⟩
  · exact blank
  · cases given with
    | nil => exact Or.inr (Or.inr (Or.inr rfl))
    | cons f rest =>
      have found : (f :: rest).lookup f.1 = some f.2 := List.lookup_cons_self
      cases each _ _ found

theorem blank_of_no_value {v : Json}
    (supplied : Blank v ∨ ∃ f, numberOf py v = some f ∧ Json.null = .float f) : Blank v := by
  rcases supplied with blank | ⟨f, -, is⟩
  · exact blank
  · cases is

theorem lookup_of_validateParams {ref : Indicator} {given : Fields} {path : Str} {period : ℤ}
    (valid : validateParams py ref ((Json.obj given).or (.obj [])) path = .ok period) {key : Str}
    {v : Json} (found : given.lookup key = some v) :
    (Operand.indicator ref period).params.lookup key = some v := by
  have same : (Json.obj given).or (.obj []) = .obj given := by
    cases given <;> rfl
  rw [same] at valid
  obtain ⟨fields, is, keys, shape, -⟩ := validateParams_eq_ok valid
  cases is
  obtain ⟨before, after, split, -⟩ := List.lookup_eq_some_iff.mp found
  have named : key = lit "period" := keys (key, v) (by rw [split]; simp)
  subst named
  rcases shape with ⟨absent, -⟩ | present
  · cases found.symm.trans absent
  · cases found.symm.trans present
    rfl

theorem operandSays_iff {payload : Json} {path : Str} {o : Operand}
    (read : parseOperand py payload path = .ok o) :
    OperandSays py (fieldsOf payload) o ↔ Plain py payload := by
  obtain ⟨data, rfl, how⟩ := parseOperand_eq_ok read
  change OperandSays py data o ↔ PlainFields py data
  unfold PlainFields
  cases how with
  | constant value kind number =>
    rw [kind, choose_kind]
    constructor
    · intro supplied
      refine ⟨?_, blank_of_no_params supplied.params⟩
      rcases supplied.ref with blank | is
      · exact blank
      · exact Or.inr (Or.inl is)
    · rintro ⟨ref, params⟩
      exact ⟨kind, Or.inl ref, Or.inl params, Or.inr ⟨value, number, rfl⟩⟩
  | price ref kind named =>
    rw [kind, choose_kind]
    constructor
    · intro supplied
      exact ⟨blank_of_no_params supplied.params, blank_of_no_value supplied.value⟩
    · rintro ⟨params, value⟩
      exact ⟨kind, Or.inr named, Or.inl params, Or.inl value⟩
  | indicator ref period path kind named params =>
    rw [kind, choose_kind]
    constructor
    · intro supplied
      refine ⟨supplied.params.imp_right ?_, blank_of_no_value supplied.value⟩
      exact fun ⟨given, is, _⟩ => ⟨given, is⟩
    · rintro ⟨shape, value⟩
      refine ⟨kind, Or.inr named, ?_, Or.inl value⟩
      refine shape.imp_right fun ⟨given, is⟩ => ⟨given, is, fun key v found => ?_⟩
      rw [is] at params
      exact lookup_of_validateParams params found

def NodeSays (py : Python) : ℕ → Json → Node → Prop
  | 0, _, _ => False
  | _ + 1, payload, .atom c =>
    let data := fieldsOf payload
    isText (data.get "type") "condition" = true ∧
      textOf py (data.get "comparison") = lit (comparisonName c.comparison) ∧
        OperandSays py (fieldsOf (data.get "left")) c.left ∧
          OperandSays py (fieldsOf (data.get "right")) c.right
  | levels + 1, payload, .not f =>
    let data := fieldsOf payload
    isText (data.get "type") "group" = true ∧
      textOf py (data.get "logical") = lit Logical.not_.name ∧
        ∃ child, data.get "children" = .arr [child] ∧ NodeSays py levels child f
  | levels + 1, payload, .all fs =>
    let data := fieldsOf payload
    isText (data.get "type") "group" = true ∧
      textOf py (data.get "logical") = lit Logical.and_.name ∧
        ∃ children, data.get "children" = .arr children ∧
          List.Forall₂ (NodeSays py levels) children fs
  | levels + 1, payload, .any fs =>
    let data := fieldsOf payload
    isText (data.get "type") "group" = true ∧
      textOf py (data.get "logical") = lit Logical.or_.name ∧
        ∃ children, data.get "children" = .arr children ∧
          List.Forall₂ (NodeSays py levels) children fs

def entries : Json → List Json
  | .arr values => values
  | _ => []

def operandsIn : ℕ → Json → List Json
  | 0, _ => []
  | levels + 1, payload =>
    let data := fieldsOf payload
    if isText (data.get "type") "condition" then [data.get "left", data.get "right"]
    else (entries (data.get "children")).flatMap (operandsIn levels)

theorem forall₂_says_iff {α : Type} {parsed : Json → α → Prop} {supplied : Json → α → Prop}
    {inside : Json → List Json}
    (each : ∀ v a, parsed v a → (supplied v a ↔ ∀ o ∈ inside v, Plain py o)) {vs : List Json}
    {as : List α} (reads : List.Forall₂ parsed vs as) :
    List.Forall₂ supplied vs as ↔ ∀ o ∈ vs.flatMap inside, Plain py o := by
  induction reads with
  | nil => exact iff_of_true .nil fun _ mem => absurd mem List.not_mem_nil
  | cons first _ rest =>
    rw [List.forall₂_cons, each _ _ first, rest, List.flatMap_cons, List.forall_mem_append]

theorem nodeSays_iff {levels : ℕ} {payload : Json} {path : Str} {n : Node}
    (read : parseNode py levels payload path = .ok n) :
    NodeSays py levels payload n ↔ ∀ o ∈ operandsIn levels payload, Plain py o := by
  induction levels generalizing payload path n with
  | zero => cases read
  | succ levels ih =>
    have each : ∀ {vs : List Json} {fs : List Node} {path : Str},
        parseEach (parseNode py levels) path 0 vs = .ok fs →
          (List.Forall₂ (NodeSays py levels) vs fs ↔
            ∀ o ∈ vs.flatMap (operandsIn levels), Plain py o) := fun reads =>
      forall₂_says_iff (fun _ _ ⟨_, inner⟩ => ih inner) (parseEach_eq_ok reads)
    obtain ⟨data, rfl, ⟨condition, c, rfl, inner⟩ | ⟨condition, group, inner⟩⟩ :=
      parseNode_eq_ok read
    · obtain ⟨comparison, left, right, -⟩ := parseCondition_eq_ok inner
      have met : operandsIn (levels + 1) (.obj data) =
          [Fields.get data "left", Fields.get data "right"] := if_pos condition
      rw [met, List.forall_mem_cons, List.forall_mem_singleton, ← operandSays_iff left,
        ← operandSays_iff right]
      exact ⟨fun ⟨_, _, both⟩ => both, fun both => ⟨condition, comparison, both⟩⟩
    · have met : operandsIn (levels + 1) (.obj data) =
          (entries (Fields.get data "children")).flatMap (operandsIn levels) :=
        if_neg (Bool.eq_false_iff.mp condition)
      rw [met]
      cases inner with
      | not child f path joiner children inner =>
        rw [children]
        change _ ↔ ∀ o ∈ [child].flatMap (operandsIn levels), Plain py o
        rw [List.flatMap_singleton, ← ih inner]
        constructor
        · rintro ⟨-, -, child', is, supplied⟩
          cases children.symm.trans is
          exact supplied
        · exact fun supplied => ⟨group, joiner, child, children, supplied⟩
      | all children fs path joiner given several inner
      | any children fs path joiner given several inner =>
        rw [given]
        change _ ↔ ∀ o ∈ children.flatMap (operandsIn levels), Plain py o
        rw [← each inner]
        constructor
        · rintro ⟨-, -, children', is, supplied⟩
          cases given.symm.trans is
          exact supplied
        · exact fun supplied => ⟨group, joiner, children, given, supplied⟩

def RuleSays (py : Python) (payload : Json) (r : Rule) : Prop :=
  textOf py ((fieldsOf payload).get "then") = lit r.then_.name ∧
    NodeSays py levels ((fieldsOf payload).get "when") r.when_

def ruleOperands (payload : Json) : List Json :=
  operandsIn levels ((fieldsOf payload).get "when")

theorem ruleSays_iff {allowed : List SignalType} {payload : Json} {path : Str} {r : Rule}
    (read : parseRule py allowed payload path = .ok r) :
    RuleSays py payload r ↔ ∀ o ∈ ruleOperands payload, Plain py o := by
  obtain ⟨data, rfl, action, -, inner⟩ := parseRule_eq_ok read
  exact (and_iff_right action).trans (nodeSays_iff inner)

theorem rulesSay_iff {allowed : List SignalType} {path : Str} {i : ℕ} {rules : List Json}
    {rs : List Rule} (read : parseEach (parseRule py allowed) path i rules = .ok rs) :
    List.Forall₂ (RuleSays py) rules rs ↔ ∀ o ∈ rules.flatMap ruleOperands, Plain py o :=
  forall₂_says_iff (fun _ _ ⟨_, inner⟩ => ruleSays_iff inner) (parseEach_eq_ok read)

structure DefinitionSays (py : Python) (payload : Json) (d : StrategyDefinition) : Prop where
  name : ∃ s, (fieldsOf payload).get "name" = .str s ∧ d.name = strip s
  symbol : ∃ s, (fieldsOf payload).get "symbol" = .str s ∧ d.symbol = py.upper (strip s)
  timeframe : ∃ s, (fieldsOf payload).get "timeframe" = .str s ∧
    lit d.timeframe.name = py.upper (strip s)
  description : Blank ((fieldsOf payload).get "description") ∨
    (fieldsOf payload).get "description" = .str d.description
  entries : ∃ rules, (fieldsOf payload).get "entry_rules" = .arr rules ∧
    List.Forall₂ (RuleSays py) rules d.entryRules
  exits : Blank ((fieldsOf payload).get "exit_rules") ∨
    ∃ rules, (fieldsOf payload).get "exit_rules" = .arr rules ∧
      List.Forall₂ (RuleSays py) rules d.exitRules

def definitionOperands (payload : Json) : List Json :=
  (entries ((fieldsOf payload).get "entry_rules") ++
    entries ((fieldsOf payload).get "exit_rules")).flatMap ruleOperands

structure PlainPayload (py : Python) (payload : Json) : Prop where
  description : Blank ((fieldsOf payload).get "description") ∨
    ∃ s, (fieldsOf payload).get "description" = .str s
  exits : Blank ((fieldsOf payload).get "exit_rules") ∨
    ∃ rules, (fieldsOf payload).get "exit_rules" = .arr rules
  operands : ∀ o ∈ definitionOperands payload, Plain py o

theorem entries_of_exitsOf {v : Json} {rules : List Json} (read : exitsOf v = .ok rules) :
    entries v = rules := by
  have is := (exitsOf_eq_ok read).1
  unfold Json.or at is
  cases given : v.truthy with
  | true =>
    rw [given, if_pos rfl] at is
    rw [is]
    rfl
  | false =>
    rw [given, if_neg Bool.false_ne_true] at is
    cases is
    cases v with
    | arr values =>
      cases values with
      | nil => rfl
      | cons first rest => cases given
    | _ => rfl

theorem description_of_str {v : Json} {s t : Str} (read : parseDescription v = .ok t)
    (is : v = .str s) : t = s := by
  have same := (parseDescription_eq_ok read).1
  rw [is] at same
  cases s with
  | nil | cons c cs =>
    cases same
    rfl

theorem definitionSays_iff {payload : Json} {d : StrategyDefinition}
    (read : parseDefinition py payload = .ok d) :
    DefinitionSays py payload d ↔ PlainPayload py payload := by
  obtain ⟨h, headed, ⟨name, symbol, description, timeframe⟩, enters, leaves, -⟩ :=
    parseDefinition_eq_ok read
  obtain ⟨data, rfl, named, ⟨t, traded, is⟩, described, ⟨t', timed, framed⟩, entering, leaving⟩ :=
    parseHeader_eq_ok headed
  have given := (entriesOf_eq_ok entering).1
  have given' := entries_of_exitsOf leaving
  have operands : (∀ o ∈ definitionOperands (.obj data), Plain py o) ↔
      List.Forall₂ (RuleSays py) h.entries d.entryRules ∧
        List.Forall₂ (RuleSays py) h.exits d.exitRules := by
    unfold definitionOperands
    change (∀ o ∈ (entries (Fields.get data "entry_rules") ++
      entries (Fields.get data "exit_rules")).flatMap ruleOperands, Plain py o) ↔ _
    rw [given, given', List.flatMap_append, List.forall_mem_append, rulesSay_iff enters,
      rulesSay_iff leaves]
    rfl
  constructor
  · intro supplied
    obtain ⟨-, -, -, text, ⟨rules, is, kept⟩, exits⟩ := supplied
    refine ⟨text.imp_right fun is => ⟨_, is⟩, exits.imp_right fun ⟨rules, is, _⟩ => ⟨rules, is⟩,
      operands.mpr ⟨?_, ?_⟩⟩
    · cases given.symm.trans is
      exact kept
    · rcases exits with blank | ⟨rules', is', kept'⟩
      · have none_ : h.exits = [] := by
          rw [← given']
          rcases blank with is' | is' | is' | is' <;>
            (change Fields.get data "exit_rules" = _ at is'; rw [is']; rfl)
        have same := (parseEach_eq_ok leaves).length_eq
        rw [none_] at same ⊢
        rw [List.length_eq_zero_iff.mp same.symm]
        exact .nil
      · change Fields.get data "exit_rules" = _ at is'
        rw [is'] at given'
        cases given'
        exact kept'
  · rintro ⟨text, exits, plain⟩
    obtain ⟨kept, kept'⟩ := operands.mp plain
    obtain ⟨name', is₁, -, -, stripped⟩ := string_eq_ok.mp named
    obtain ⟨symbol', is₂, -, -, stripped'⟩ := string_eq_ok.mp traded
    obtain ⟨time', is₃, -, -, stripped''⟩ := string_eq_ok.mp timed
    refine
      { name := ⟨name', is₁, name.trans stripped.symm⟩
        symbol := ⟨symbol', is₂, symbol.trans (is.trans (congrArg py.upper stripped'.symm))⟩
        timeframe := ⟨time', is₃, ?_⟩, description := ?_, entries := ⟨h.entries, given, kept⟩
        exits := ?_ }
    · rw [timeframe, ← parseTimeframe_eq_ok framed, ← stripped'', strip_strip]
    · refine text.imp_right ?_
      rintro ⟨s, is⟩
      rw [description, description_of_str described is]
      exact is
    · refine exits.imp_right ?_
      rintro ⟨rules, is⟩
      change Fields.get data "exit_rules" = _ at is
      rw [is] at given'
      cases given'
      exact ⟨h.exits, is, kept'⟩

/-! ## The claim of a payload -/

structure Sound (py : Python) (payload : Json) : Prop where
  total : Caught (parseDefinition py payload)
  again : ∀ d, parseDefinition py payload = .ok d → parseDefinition py d.toPayload = .ok d
  comparable : ∀ d, parseDefinition py payload = .ok d → ∀ c ∈ d.conditions, c.Comparable
  supplied : ∀ d, parseDefinition py payload = .ok d → DefinitionSays py payload d

def Fits (py : Python) (payload : Json) : Prop :=
  ∀ s, (fieldsOf payload).get "symbol" = .str s → (py.upper (strip s)).length ≤ 32

theorem comparable_of_formed_definition {d : StrategyDefinition} (formed : d.Formed py) :
    ∀ c ∈ d.conditions, c.Comparable := by
  intro c mem
  obtain ⟨r, member, inside⟩ := List.mem_flatMap.mp mem
  rcases List.mem_append.mp member with here | here
  · exact comparable_of_formed (formed.entries.2.2 r here).when_ c inside
  · exact comparable_of_formed (formed.exits.2 r here).when_ c inside

/-- A payload is read as it should be exactly where no operand that is met is faulty and, if it is
accepted, its symbol fits and it supplies nothing that is not used. -/
theorem sound_iff (lawful : py.Lawful) (payload : Json) :
    Sound py payload ↔
      (∀ o ∈ definitionMet py payload, ¬ Faulty py o) ∧
        ((parseDefinition py payload).isOk = true → Fits py payload ∧ PlainPayload py payload) := by
  change _ ↔ Sane py (definitionMet py payload) ∧ _
  rw [← caught_parseDefinition]
  have fits : ∀ {d}, parseDefinition py payload = .ok d →
      (parseDefinition py d.toPayload = .ok d ↔ Fits py payload) := by
    intro d read
    rw [parseDefinition_toPayload_iff (parseDefinition_formed lawful read)]
    obtain ⟨h, headed, ⟨-, symbol, -⟩, -⟩ := parseDefinition_eq_ok read
    obtain ⟨data, rfl, -, ⟨t, traded, is⟩, -⟩ := parseHeader_eq_ok headed
    obtain ⟨s, given, -, -, stripped⟩ := string_eq_ok.mp traded
    rw [symbol, is, ← stripped]
    constructor
    · intro short s' given'
      cases given.symm.trans given'
      exact short
    · exact fun fits => fits s given
  constructor
  · rintro ⟨total, again, -, supplied⟩
    refine ⟨total, fun accepted => ?_⟩
    cases read : parseDefinition py payload with
    | error fault =>
      rw [read] at accepted
      cases accepted
    | ok d => exact ⟨(fits read).mp (again d read), (definitionSays_iff read).mp (supplied d read)⟩
  · rintro ⟨total, accepted⟩
    refine ⟨total, ?_, ?_, ?_⟩
    · intro d read
      exact (fits read).mpr (accepted (by rw [read]; rfl)).1
    · exact fun d read => comparable_of_formed_definition (parseDefinition_formed lawful read)
    · intro d read
      exact (definitionSays_iff read).mpr (accepted (by rw [read]; rfl)).2

end Reading

/-! ## On ASCII texts -/

def ascii : Python where
  toRuntime := { sample [] with
    float := fun i => if i.natAbs < 2 ^ 1024 then some (.finite i) else none }
  sorted := id

theorem upperAscii_val (c : Encoding.CodePoint) :
    (upperAscii c).val = if 97 ≤ c.val ∧ c.val ≤ 122 then c.val - 32 else c.val := by
  unfold upperAscii
  split_ifs with lower
  · exact Nat.mod_eq_of_lt (by have := c.isLt; omega)
  · rfl

theorem upperAscii_upperAscii (c : Encoding.CodePoint) :
    upperAscii (upperAscii c) = upperAscii c := by
  refine Fin.ext ?_
  rw [upperAscii_val, upperAscii_val]
  split_ifs <;> omega

theorem isSpace_upperAscii (c : Encoding.CodePoint) : isSpace (upperAscii c) = isSpace c := by
  have letters : ∀ n < 123, 97 ≤ n → isSpace (Fin.ofNat 0x110000 (n - 32)) =
      isSpace (Fin.ofNat 0x110000 n) := by
    decide +kernel
  unfold upperAscii
  split_ifs with lower
  · have is : Fin.ofNat 0x110000 c.val = c := Fin.ext (Nat.mod_eq_of_lt c.isLt)
    exact (letters c.val (by omega) lower.1).trans (congrArg isSpace is)
  · rfl

theorem strip_map {f : Encoding.CodePoint → Encoding.CodePoint}
    (spaces : ∀ c, isSpace (f c) = isSpace c) (s : Str) : strip (s.map f) = (strip s).map f := by
  have same : isSpace ∘ f = isSpace := funext spaces
  unfold strip trim
  rw [List.dropWhile_map, same, ← List.map_reverse, List.dropWhile_map, same, List.map_reverse]

theorem ascii_lawful : ascii.Lawful where
  upper_upper s := by
    change (s.map upperAscii).map upperAscii = s.map upperAscii
    rw [List.map_map]
    exact congrArg (List.map · s) (funext upperAscii_upperAscii)
  strip_upper s := by
    change strip ((strip s).map upperAscii) = (strip s).map upperAscii
    rw [strip_map isSpace_upperAscii, strip_strip]
  upper_eq_nil s none_ := List.map_eq_nil_iff.mp none_

def aboveOne (symbol : Str) (left : Json) : Json :=
  .obj [(lit "name", .str (lit "Above one")), (lit "symbol", .str symbol),
    (lit "timeframe", .str (lit "H1")),
    (lit "entry_rules", .arr [.obj [
      (lit "when", .obj [(lit "type", .str (lit "condition")), (lit "left", left),
        (lit "comparison", .str (lit "GREATER_THAN")),
        (lit "right", .obj [(lit "kind", .str (lit "constant")), (lit "value", .int 1)])]),
      (lit "then", .str (lit "ENTRY_LONG"))]])]

def close : Json := .obj [(lit "kind", .str (lit "price")), (lit "ref", .str (lit "close"))]

def german : Python :=
  { ascii with
    upper := fun s => s.flatMap fun c => if c.val = 0xDF then lit "SS" else [upperAscii c] }

def closeOfFive : Json :=
  .obj [(lit "kind", .str (lit "price")), (lit "ref", .str (lit "close")),
    (lit "params", .obj [(lit "period", .int 5)])]

def hugeConstant : Json :=
  .obj [(lit "kind", .str (lit "constant")), (lit "value", .int (10 ^ 400))]

def listedParams : Json :=
  .obj [(lit "kind", .str (lit "indicator")), (lit "ref", .str (lit "SMA")),
    (lit "params", .arr [.str (lit "period")])]

theorem sound_aboveOne : Sound ascii (aboveOne (lit "eurusd") close) := by
  refine (sound_iff ascii_lawful _).mpr ⟨?_, fun _ => ⟨?_, ?_⟩⟩
  · have accepted : (parseDefinition ascii (aboveOne (lit "eurusd") close)).isOk = true := by
      decide +kernel
    obtain ⟨d, read⟩ := Fallible.isOk_iff.mp accepted
    refine caught_parseDefinition.mp ?_
    rw [read]
    exact caught_ok d
  · intro s given
    cases given
    decide +kernel
  · refine ⟨Or.inl (Or.inl rfl), Or.inl (Or.inl rfl), fun o mem => ?_⟩
    have either : o ∈ [close, .obj [(lit "kind", .str (lit "constant")), (lit "value", .int 1)]] :=
      mem
    rcases List.mem_pair.mp either with rfl | rfl
    · exact ⟨Or.inl rfl, Or.inl rfl⟩
    · exact ⟨Or.inl rfl, Or.inl rfl⟩

def otherFault {α : Type} : Parse α → Option Fault
  | .ok _ => none
  | .error (.definition _) => none
  | .error fault => some fault

theorem not_sound_of_otherFault {py : Python} {payload : Json} {fault : Fault}
    (other : otherFault (parseDefinition py payload) = some fault) : ¬ Sound py payload := by
  intro sound
  cases read : parseDefinition py payload with
  | ok d =>
    rw [read] at other
    cases other
  | error fault' =>
    obtain ⟨reason, rfl⟩ := sound.total fault' read
    rw [read] at other
    cases other

/-- A price with parameters is accepted without them; a constant that is too large, and parameters
that are a list, end with another exception; and capitals can be too many to be read again. -/
theorem not_forall_sound :
    (parseDefinition ascii (aboveOne (lit "eurusd") closeOfFive)).isOk = true ∧
      ¬ Sound ascii (aboveOne (lit "eurusd") closeOfFive) ∧
      ¬ Sound ascii (aboveOne (lit "eurusd") hugeConstant) ∧
      ¬ Sound ascii (aboveOne (lit "eurusd") listedParams) ∧
      ¬ Sound german (aboveOne (List.replicate 17 0xDF) close) := by
  have accepted : (parseDefinition ascii (aboveOne (lit "eurusd") closeOfFive)).isOk = true := by
    decide +kernel
  refine ⟨accepted, ?_, ?_, ?_, ?_⟩
  · intro sound
    obtain ⟨d, read⟩ := Fallible.isOk_iff.mp accepted
    have plain := ((definitionSays_iff read).mp (sound.supplied d read)).operands
    have met : closeOfFive ∈ definitionOperands (aboveOne (lit "eurusd") closeOfFive) :=
      List.mem_cons_self
    obtain ⟨blank, -⟩ : PlainFields ascii (fieldsOf closeOfFive) := plain closeOfFive met
    rcases blank with is | is | is | is <;> cases is
  · exact not_sound_of_otherFault (by decide +kernel : _ = some Fault.overflow)
  · exact not_sound_of_otherFault (by decide +kernel : _ = some Fault.attribute)
  · intro sound
    have first :
        (parseDefinition german (aboveOne (List.replicate 17 0xDF) close)).isOk = true := by
      decide +kernel
    obtain ⟨d, read⟩ := Fallible.isOk_iff.mp first
    have again := Fallible.isOk_iff.mpr ⟨d, sound.again d read⟩
    have refused : ((parseDefinition german (aboveOne (List.replicate 17 0xDF) close)).bind
        fun d => parseDefinition german d.toPayload).isOk = false := by
      decide +kernel
    rw [read] at refused
    exact Bool.false_ne_true (refused.symm.trans again)

end TradeResearch.Strategies.Payload
