import TradeResearch.Lib.Decimal
import TradeResearch.Lib.Marks

/-!
# What the digest of an order tells

`request_hash` of `backend/app/risk/decision.py`: the fields an approval is bound to, rendered and
joined. An absent text is rendered as the empty one, a separator inside a text is not escaped, and a
figure is rounded to the precision of the context before it is rendered.

* `Separated`: the texts are there, and none holds what separates it from its neighbours.
* `separated_iff`: exactly then do the fields of no other order have the same digest.
-/

namespace TradeResearch.Risk

def contextPrecision : ℕ := 28

structure OrderFields where
  accountId : Option String
  symbol : Option String
  side : Option String
  volume : Option Decimal
  orderType : Option String
  entryPrice : Option Decimal
  stopLoss : Option Decimal
  takeProfit : Option Decimal
  strategyId : Option String
  mode : Option String

def renderText (value : Option String) : List Char := (value.getD "").toList

def renderFigure : Option Decimal → List Char
  | none => []
  | some value => (value.normalize contextPrecision).plain

namespace OrderFields

def part (key : String) (rendered : List Char) : List Char := (key ++ "=").toList ++ rendered

def parts (f : OrderFields) : List (List Char) :=
  [part "account_id" (renderText f.accountId), part "symbol" (renderText f.symbol),
    part "side" (renderText f.side), part "volume" (renderFigure f.volume),
    part "order_type" (renderText f.orderType), part "entry_price" (renderFigure f.entryPrice),
    part "stop_loss" (renderFigure f.stopLoss), part "take_profit" (renderFigure f.takeProfit),
    part "strategy_id" (renderText f.strategyId), part "mode" (renderText f.mode)]

def requestText (f : OrderFields) : String := String.ofList (['|'].intercalate f.parts)

def requestHash (digest : String → String) (f : OrderFields) : String := digest f.requestText

def texts (f : OrderFields) : List (Option String) :=
  [f.accountId, f.symbol, f.side, f.orderType, f.strategyId, f.mode]

def figures (f : OrderFields) : List (Option Decimal) :=
  [f.volume, f.entryPrice, f.stopLoss, f.takeProfit]

def Equal (f g : OrderFields) : Prop :=
  f.texts = g.texts ∧ f.figures.map (Option.map Decimal.value) =
    g.figures.map (Option.map Decimal.value)

def kept (d : Decimal) : ℚ := (d.normalize contextPrecision).value

def Same (f g : OrderFields) : Prop :=
  f.texts = g.texts ∧ f.figures.map (Option.map kept) = g.figures.map (Option.map kept)

def keyMarks (key : List Char) : Set (List Char) := Marks.words '|' {[]} key

def volumeField (v : Option Decimal) : List (List Char) := ["volume=".toList ++ renderFigure v]

def priceFields (entry stop take_ : Option Decimal) : List (List Char) :=
  ["entry_price=".toList ++ renderFigure entry, "stop_loss=".toList ++ renderFigure stop,
    "take_profit=".toList ++ renderFigure take_]

def volumeMarks : Set (List Char) :=
  Marks.words '|' (Set.range volumeField) "order_type=".toList

def priceMarks : Set (List Char) :=
  Marks.words '|' {gs | ∃ e s t, gs = priceFields e s t} "strategy_id=".toList

def marks : List (Set (List Char)) :=
  [keyMarks "symbol=".toList, keyMarks "side=".toList, volumeMarks, priceMarks,
    keyMarks "mode=".toList]

def rest (f : OrderFields) : List (List Char × List Char) :=
  [(Marks.barred '|' [] "symbol=".toList, renderText f.symbol),
    (Marks.barred '|' [] "side=".toList, renderText f.side),
    (Marks.barred '|' (volumeField f.volume) "order_type=".toList, renderText f.orderType),
    (Marks.barred '|' (priceFields f.entryPrice f.stopLoss f.takeProfit) "strategy_id=".toList,
      renderText f.strategyId),
    (Marks.barred '|' [] "mode=".toList, renderText f.mode)]

theorem toList_requestText (f : OrderFields) :
    f.requestText.toList =
      "account_id=".toList ++ Marks.written (renderText f.accountId) f.rest := by
  unfold requestText
  simp [parts, part, List.intercalate, rest, volumeField, priceFields, Marks.written, Marks.barred]

theorem marked_rest (f : OrderFields) : Marks.Marked marks f.rest :=
  .cons ⟨[], rfl, rfl⟩ (.cons ⟨[], rfl, rfl⟩ (.cons ⟨_, ⟨f.volume, rfl⟩, rfl⟩
    (.cons ⟨_, ⟨f.entryPrice, f.stopLoss, f.takeProfit, rfl⟩, rfl⟩ (.cons ⟨[], rfl, rfl⟩ .nil))))

theorem bar_notMem_renderFigure (v : Option Decimal) : '|' ∉ renderFigure v := by
  cases v with
  | none => exact List.not_mem_nil
  | some d =>
    intro mem
    rcases Decimal.mem_plain mem with digit | point | sign
    · cases digit
    · cases point
    · cases sign

theorem marks_keyMarks {k : Char} {key : List Char} (free : '|' ∉ k :: key) :
    Marks (keyMarks (k :: key)) :=
  Marks.marks_words (k := k)
    { free := by
        rintro _ rfl g mem
        cases mem
      starts := by
        rintro _ rfl
        exact ⟨key, rfl⟩
      others := by
        rintro _ rfl g mem
        cases mem
      last_free := free
      last_other := by
        rintro _ rfl some_
        exact absurd rfl some_
      length := by
        rintro _ rfl _ rfl
        rfl }

theorem bar_notMem_volumeField (v : Option Decimal) : ∀ g ∈ volumeField v, '|' ∉ g := by
  intro g mem
  rw [List.mem_singleton.mp mem, List.mem_append, not_or]
  exact ⟨by decide, bar_notMem_renderFigure v⟩

theorem bar_notMem_priceFields (e s t : Option Decimal) : ∀ g ∈ priceFields e s t, '|' ∉ g := by
  intro g mem
  simp only [priceFields, List.mem_cons, List.not_mem_nil, or_false] at mem
  rcases mem with rfl | rfl | rfl
  all_goals
    rw [List.mem_append, not_or]
    exact ⟨by decide, bar_notMem_renderFigure _⟩

theorem marks_volumeMarks : Marks volumeMarks :=
  Marks.marks_words (k := 'v')
    { free := by
        rintro _ ⟨v, rfl⟩
        exact bar_notMem_volumeField v
      starts := by
        rintro _ ⟨v, rfl⟩
        exact ⟨_, rfl⟩
      others := by
        rintro _ ⟨v, rfl⟩ g mem
        cases mem
      last_free := by decide
      last_other := fun _ _ _ => ⟨by decide, 'o', _, rfl, by decide⟩
      length := by
        rintro _ ⟨v, rfl⟩ _ ⟨w, rfl⟩
        rfl }

theorem marks_priceMarks : Marks priceMarks :=
  Marks.marks_words (k := 'e')
    { free := by
        rintro _ ⟨e, s, t, rfl⟩
        exact bar_notMem_priceFields e s t
      starts := by
        rintro _ ⟨e, s, t, rfl⟩
        exact ⟨_, rfl⟩
      others := by
        rintro _ ⟨e, s, t, rfl⟩ g mem
        refine ⟨bar_notMem_priceFields e s t g (List.mem_of_mem_tail mem), ?_⟩
        simp only [priceFields, List.tail_cons, List.mem_cons, List.not_mem_nil, or_false] at mem
        rcases mem with rfl | rfl
        · exact ⟨'s', _, rfl, by decide⟩
        · exact ⟨'t', _, rfl, by decide⟩
      last_free := by decide
      last_other := fun _ _ _ => ⟨by decide, 's', _, rfl, by decide⟩
      length := by
        rintro _ ⟨e, s, t, rfl⟩ _ ⟨e', s', t', rfl⟩
        rfl }

theorem marks_marks : ∀ M ∈ marks, Marks M := by
  intro M mem
  simp only [marks, List.mem_cons, List.not_mem_nil, or_false] at mem
  rcases mem with rfl | rfl | rfl | rfl | rfl
  · exact marks_keyMarks (by decide)
  · exact marks_keyMarks (by decide)
  · exact marks_volumeMarks
  · exact marks_priceMarks
  · exact marks_keyMarks (by decide)

def Named (value : Option String) : Prop := ∃ s, value = some s ∧ s ≠ ""

structure Separated (f : OrderFields) : Prop where
  named : ∀ value ∈ f.texts, Named value
  clear : Marks.Clear marks (renderText f.accountId) f.rest

theorem eq_of_renderText {v w : Option String} (named : Named v)
    (same : renderText w = renderText v) : w = v := by
  obtain ⟨s, rfl, some_⟩ := named
  have same := String.toList_inj.mp same
  cases w with
  | none => exact absurd same.symm some_
  | some t => exact congrArg some same

theorem exists_renderText_eq {v : Option String} (unnamed : ¬ Named v) :
    ∃ w, renderText w = renderText v ∧ w ≠ v := by
  cases v with
  | none => exact ⟨some "", rfl, Option.some_ne_none _⟩
  | some s =>
    have empty : s = "" := by
      by_contra some_
      exact unnamed ⟨s, rfl, some_⟩
    exact ⟨none, by rw [empty]; rfl, (Option.some_ne_none s).symm⟩

theorem kept_eq_of_renderFigure {v w : Option Decimal} (same : renderFigure v = renderFigure w) :
    v.map kept = w.map kept := by
  cases v with
  | none =>
    cases w with
    | none => rfl
    | some e => exact absurd same.symm (Decimal.plain_ne_nil _)
  | some d =>
    cases w with
    | none => exact absurd same (Decimal.plain_ne_nil _)
    | some e => exact congrArg some (Decimal.value_eq_of_plain_eq same)

theorem Separated.same {f g : OrderFields} (separated : f.Separated)
    (same : g.requestText = f.requestText) : g.Same f := by
  have written := congrArg String.toList same
  rw [toList_requestText, toList_requestText] at written
  obtain ⟨account, parts⟩ := Marks.eq_of_clear marks_marks separated.clear f.marked_rest
    g.marked_rest (List.append_cancel_left written).symm
  simp only [rest, List.cons.injEq, Prod.mk.injEq, and_true, true_and] at parts
  obtain ⟨symbol, side, ⟨volume, orderType⟩, ⟨prices, strategy⟩, mode⟩ := parts
  have volume : volumeField f.volume = volumeField g.volume :=
    Marks.barred_inj (a := []) (b := []) rfl (bar_notMem_volumeField _) (bar_notMem_volumeField _)
      (by rw [volume])
  have prices : priceFields f.entryPrice f.stopLoss f.takeProfit =
      priceFields g.entryPrice g.stopLoss g.takeProfit :=
    Marks.barred_inj (a := []) (b := []) rfl (bar_notMem_priceFields _ _ _)
      (bar_notMem_priceFields _ _ _) (by rw [prices])
  simp only [volumeField, List.cons.injEq, List.append_cancel_left_eq, and_true] at volume
  simp only [priceFields, List.cons.injEq, List.append_cancel_left_eq, and_true] at prices
  obtain ⟨entry, stop, take_⟩ := prices
  have named := separated.named
  simp only [texts, List.forall_mem_cons] at named
  obtain ⟨account', symbol', side', orderType', strategy', mode', -⟩ := named
  refine ⟨?_, ?_⟩
  · simp only [texts, List.cons.injEq, and_true]
    exact ⟨eq_of_renderText account' account.symm, eq_of_renderText symbol' symbol.symm,
      eq_of_renderText side' side.symm, eq_of_renderText orderType' orderType.symm,
      eq_of_renderText strategy' strategy.symm, eq_of_renderText mode' mode.symm⟩
  · simp only [figures, List.map_cons, List.map_nil, List.cons.injEq, and_true]
    exact ⟨kept_eq_of_renderFigure volume.symm, kept_eq_of_renderFigure entry.symm,
      kept_eq_of_renderFigure stop.symm, kept_eq_of_renderFigure take_.symm⟩

theorem exists_of_marked {account : List Char} {parts : List (List Char × List Char)}
    (marked : Marks.Marked marks parts) :
    ∃ g : OrderFields, renderText g.accountId = account ∧ g.rest = parts := by
  cases marked with | @cons _ symbol _ parts isSymbol marked
  cases marked with | @cons _ side _ parts isSide marked
  cases marked with | @cons _ orderType _ parts isVolume marked
  cases marked with | @cons _ strategy _ parts arePrices marked
  cases marked with | @cons _ mode _ parts isMode marked
  cases marked
  obtain ⟨_, rfl, isSymbol⟩ := isSymbol
  obtain ⟨_, rfl, isSide⟩ := isSide
  obtain ⟨_, ⟨v, rfl⟩, isVolume⟩ := isVolume
  obtain ⟨_, ⟨e, s, t, rfl⟩, arePrices⟩ := arePrices
  obtain ⟨_, rfl, isMode⟩ := isMode
  refine ⟨⟨some (String.ofList account), some (String.ofList symbol.2), some (String.ofList side.2),
    v, some (String.ofList orderType.2), e, s, t, some (String.ofList strategy.2),
    some (String.ofList mode.2)⟩, String.toList_ofList, ?_⟩
  simp only [rest, renderText, Option.getD_some, String.toList_ofList]
  rw [← isSymbol, ← isSide, ← isVolume, ← arePrices, ← isMode]

theorem parts_of_texts {f g : OrderFields} (same : g.texts = f.texts) :
    renderText g.accountId = renderText f.accountId ∧
      g.rest.map Prod.snd = f.rest.map Prod.snd := by
  simp only [texts, List.cons.injEq, and_true] at same
  obtain ⟨account, symbol, side, orderType, strategy, mode⟩ := same
  simp only [rest, List.map_cons, List.map_nil, account, symbol, side, orderType, strategy, mode,
    and_self]

theorem exists_other {f : OrderFields} (unseparated : ¬ f.Separated) :
    ∃ g : OrderFields, g.requestText = f.requestText ∧ g.texts ≠ f.texts := by
  by_cases named : ∀ value ∈ f.texts, Named value
  · have unclear : ¬ Marks.Clear marks (renderText f.accountId) f.rest := fun clear =>
      unseparated ⟨named, clear⟩
    obtain ⟨account, parts, marked, same, other⟩ :=
      Marks.exists_other_of_not_clear marks_marks f.marked_rest unclear
    obtain ⟨g, rfl, rfl⟩ := @exists_of_marked account _ marked
    refine ⟨g, String.toList_inj.mp ?_, fun texts => ?_⟩
    · rw [toList_requestText, toList_requestText, same]
    · obtain ⟨account, parts⟩ := parts_of_texts texts
      exact other.elim (fun ne => ne account) fun ne => ne parts
  · simp only [texts, List.forall_mem_cons, List.not_mem_nil, false_implies, implies_true, and_true,
      not_and_or] at named
    rcases named with absent | absent | absent | absent | absent | absent
    all_goals obtain ⟨w, rendered, ne⟩ := exists_renderText_eq absent
    · refine ⟨{ f with accountId := w }, ?_, fun same => ne (List.cons.inj same).1⟩
      simp only [requestText, parts, rendered]
    · refine ⟨{ f with symbol := w }, ?_, fun same => ne ?_⟩
      · simp only [requestText, parts, rendered]
      · simpa [texts] using same
    · refine ⟨{ f with side := w }, ?_, fun same => ne ?_⟩
      · simp only [requestText, parts, rendered]
      · simpa [texts] using same
    · refine ⟨{ f with orderType := w }, ?_, fun same => ne ?_⟩
      · simp only [requestText, parts, rendered]
      · simpa [texts] using same
    · refine ⟨{ f with strategyId := w }, ?_, fun same => ne ?_⟩
      · simp only [requestText, parts, rendered]
      · simpa [texts] using same
    · refine ⟨{ f with mode := w }, ?_, fun same => ne ?_⟩
      · simp only [requestText, parts, rendered]
      · simpa [texts] using same

def Unstated (value : Option Decimal) : Prop := ∀ d ∈ value, d.coefficient = 0

theorem kept_eq_zero_iff (d : Decimal) : kept d = 0 ↔ d.coefficient = 0 := by
  unfold kept
  rw [Decimal.value_eq_zero_iff]
  constructor
  · intro none_
    by_contra some_
    exact absurd none_
      (Decimal.normal_normalize d (Nat.pos_of_ne_zero some_) (by decide)).positive.ne'
  · exact Decimal.coefficient_normalize_of_zero contextPrecision

theorem exists_renderFigure_eq {v : Option Decimal} (stated : ¬ Unstated v) :
    ∃ w, renderFigure w = renderFigure v ∧ w.map Decimal.value ≠ v.map Decimal.value := by
  unfold Unstated at stated
  push Not at stated
  obtain ⟨d, rfl, some_⟩ := stated
  have normal := @Decimal.normal_normalize contextPrecision d
    (Nat.pos_of_ne_zero some_) (by decide)
  by_cases rounded : (d.normalize contextPrecision).value = d.value
  · obtain ⟨e, other, same⟩ := normal.exists_near (by decide)
    refine ⟨some e, congrArg Decimal.plain same, fun values => other ?_⟩
    exact (Option.some.inj values).trans rounded.symm
  · refine ⟨some (d.normalize contextPrecision), ?_, fun values => rounded (Option.some.inj values)⟩
    exact congrArg Decimal.plain (normal.normalize (by decide))

theorem exists_other_figure {f : OrderFields} (stated : ¬ ∀ v ∈ f.figures, Unstated v) :
    ∃ g : OrderFields, g.requestText = f.requestText ∧
      g.figures.map (Option.map Decimal.value) ≠ f.figures.map (Option.map Decimal.value) := by
  simp only [figures, List.forall_mem_cons, List.not_mem_nil, false_implies, implies_true, and_true,
    not_and_or] at stated
  rcases stated with stated | stated | stated | stated
  all_goals obtain ⟨w, rendered, ne⟩ := exists_renderFigure_eq stated
  · refine ⟨{ f with volume := w }, ?_, fun same => ne (List.cons.inj same).1⟩
    simp only [requestText, parts, rendered]
  · refine ⟨{ f with entryPrice := w }, ?_, fun same => ne ?_⟩
    · simp only [requestText, parts, rendered]
    · simpa [figures] using same
  · refine ⟨{ f with stopLoss := w }, ?_, fun same => ne ?_⟩
    · simp only [requestText, parts, rendered]
    · simpa [figures] using same
  · refine ⟨{ f with takeProfit := w }, ?_, fun same => ne ?_⟩
    · simp only [requestText, parts, rendered]
    · simpa [figures] using same

theorem value_eq_of_kept {v w : Option Decimal} (unstated : Unstated v)
    (same : w.map kept = v.map kept) : w.map Decimal.value = v.map Decimal.value := by
  cases v with
  | none =>
    cases w with
    | none => rfl
    | some e => cases same
  | some d =>
    cases w with
    | none => cases same
    | some e =>
      have zero := unstated d rfl
      have kept_ := (Option.some.inj same).trans ((kept_eq_zero_iff d).mpr zero)
      have left : e.value = 0 := (Decimal.value_eq_zero_iff e).mpr ((kept_eq_zero_iff e).mp kept_)
      have right : d.value = 0 := (Decimal.value_eq_zero_iff d).mpr zero
      exact congrArg some (left.trans right.symm)

section Digest

variable (digest : String → String)

/-- A digest without collisions tells an order from every other exactly where its fields are
separated, as far as the context can tell figures; and to the last digit only where no figure is
stated either. -/
theorem separated_iff (free : Function.Injective digest) (f : OrderFields) :
    ((∀ g : OrderFields, g.requestHash digest = f.requestHash digest → g.Same f) ↔ f.Separated) ∧
      ((∀ g : OrderFields, g.requestHash digest = f.requestHash digest → g.Equal f) ↔
        f.Separated ∧ ∀ v ∈ f.figures, Unstated v) := by
  refine ⟨⟨fun binds => ?_, fun separated g same => separated.same (free same)⟩,
    ⟨fun binds => ⟨?_, ?_⟩, ?_⟩⟩
  · by_contra unseparated
    obtain ⟨g, same, other⟩ := exists_other unseparated
    exact other (binds g (congrArg digest same)).1
  · by_contra unseparated
    obtain ⟨g, same, other⟩ := exists_other unseparated
    exact other (binds g (congrArg digest same)).1
  · by_contra stated
    obtain ⟨g, same, other⟩ := exists_other_figure stated
    exact other (binds g (congrArg digest same)).2
  · rintro ⟨separated, unstated⟩ g same
    obtain ⟨texts, kept_⟩ := separated.same (free same)
    refine ⟨texts, ?_⟩
    simp only [figures, List.map_cons, List.map_nil, List.cons.injEq, and_true,
      List.forall_mem_cons] at kept_ unstated ⊢
    obtain ⟨volume, entry, stop, take_⟩ := kept_
    obtain ⟨volume', entry', stop', take', -⟩ := unstated
    exact ⟨value_eq_of_kept volume' volume, value_eq_of_kept entry' entry,
      value_eq_of_kept stop' stop, value_eq_of_kept take' take_⟩

end Digest

def halfLot : OrderFields where
  accountId := some "acct-a"
  symbol := some "EURUSD"
  side := some "buy"
  volume := some ⟨false, 50, -2⟩
  orderType := some "market"
  entryPrice := some ⟨false, 11, -1⟩
  stopLoss := none
  takeProfit := none
  strategyId := some "trend"
  mode := some "demo"

def sampleDigest (text : String) : String :=
  if text = halfLot.requestText then
    "217a6d2d221b5b601ef0c9fa665fe6f4fd5658739c895c0d50b3685bf61838ca"
  else "#" ++ text

theorem sampleDigest_injective : Function.Injective sampleDigest := by
  intro s t same
  unfold sampleDigest at same
  split_ifs at same with first second second
  · exact first.trans second.symm
  · exact absurd (congrArg (fun s => s.toList.head?) same) (by simp)
  · exact absurd (congrArg (fun s => s.toList.head?) same) (by simp)
  · simpa using same

theorem separated_of_free {f : OrderFields} (named : ∀ value ∈ f.texts, Named value)
    (free : ∀ value ∈ f.texts, '|' ∉ renderText value) : f.Separated := by
  refine ⟨named, ?_⟩
  simp only [texts, List.forall_mem_cons] at free
  obtain ⟨account, symbol, side, orderType, strategy, mode, -⟩ := free
  exact ⟨fun t mem => ⟨Marks.not_infix_of_free account t mem, Marks.not_infix_of_free symbol t mem⟩,
    fun t mem => ⟨Marks.not_infix_of_free symbol t mem, Marks.not_infix_of_free side t mem⟩,
    fun t mem => ⟨Marks.not_infix_of_free side t mem, Marks.not_infix_of_free orderType t mem⟩,
    fun t mem => ⟨Marks.not_infix_of_free orderType t mem, Marks.not_infix_of_free strategy t mem⟩,
    fun t mem => ⟨Marks.not_infix_of_free strategy t mem, Marks.not_infix_of_free mode t mem⟩,
    trivial⟩

theorem halfLot_separated : halfLot.Separated := by
  refine separated_of_free ?_ (by decide)
  simp only [texts, halfLot, List.forall_mem_cons]
  exact ⟨⟨_, rfl, by decide⟩, ⟨_, rfl, by decide⟩, ⟨_, rfl, by decide⟩, ⟨_, rfl, by decide⟩,
    ⟨_, rfl, by decide⟩, ⟨_, rfl, by decide⟩, fun _ mem => absurd mem List.not_mem_nil⟩

/-- The digest of that order is that of no other, to the precision of the context; to the last digit
it is that of others, since a figure is stated. -/
theorem same_halfLot :
    (∀ g : OrderFields, g.requestHash sampleDigest = halfLot.requestHash sampleDigest →
      g.Same halfLot) ∧ ¬ ∀ v ∈ halfLot.figures, Unstated v :=
  ⟨(separated_iff sampleDigest sampleDigest_injective halfLot).1.mpr halfLot_separated,
    fun unstated => absurd (unstated halfLot.volume List.mem_cons_self _ rfl) (by decide)⟩

def heldSeparator : OrderFields :=
  { halfLot with accountId := some "a", symbol := some "b|symbol=c" }

/-- It is digested as an order of another account in another symbol. -/
theorem not_forall_binds :
    ¬ ∀ digest : String → String, Function.Injective digest → ∀ f g : OrderFields,
      g.requestHash digest = f.requestHash digest → g.Equal f := by
  intro binds
  have same := (binds id Function.injective_id heldSeparator
    { halfLot with accountId := some "a|symbol=b", symbol := some "c" } (by decide +kernel)).1
  exact absurd same (by decide)

end OrderFields

end TradeResearch.Risk
