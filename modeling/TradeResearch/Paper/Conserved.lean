import Mathlib.Algebra.Order.Ring.Nat
import TradeResearch.Paper.Service

/-!
# What the stored account conserves

The balance of a paper account and its open positions are written as a bot has them, not as they
change. As long as one bot at a time holds an account, and starts from positions in its own symbol,
they are those of the fills that were recorded.

* `sameCores_applyFill`: what a fill leaves of side, quantity and entry depends on nothing else.
* `Passed` is what a pass leaves of a portfolio; `passed_evaluate` derives it from the parts of the
  pass.
* `Matches` relates stored rows to a portfolio, and `matches_writeAll` is what writing a pass does
  to it.
* `ledger_of_conduct` is the result for whole runs.
-/

namespace TradeResearch.Paper

/-! ## Side, quantity and entry -/

abbrev PositionCore : Type := Side × ℚ × ℚ

def PaperPosition.core (p : PaperPosition) : PositionCore := (p.side, p.quantity, p.averageEntry)

def PositionRow.core (r : PositionRow) : PositionCore := (r.side, r.quantity, r.entryPrice)

def nextCore (f : Fill) : Option PositionCore → Option PositionCore
  | none => some (f.wanted, f.quantity, f.price)
  | some (side, quantity, entry) =>
    if side = f.wanted then
      some (side, quantity + f.quantity,
        (entry * quantity + f.price * f.quantity) / (quantity + f.quantity))
    else if f.quantity < quantity then some (side, quantity - f.quantity, entry)
    else if quantity < f.quantity then some (f.wanted, f.quantity - quantity, f.price)
    else none

namespace PaperPortfolio

def coreAt (p : PaperPortfolio) (symbol : String) : Option PositionCore :=
  (p.positions.find? symbol).map PaperPosition.core

theorem find?_put (p : PaperPortfolio) (position : PaperPosition) (symbol : String) :
    (p.put position).positions.find? symbol =
      if symbol = position.symbol then some position else p.positions.find? symbol :=
  Table.find?_put ..

theorem find?_dropped (p : PaperPortfolio) (gone symbol : String) :
    (p.dropped gone).positions.find? symbol =
      if symbol = gone then none else p.positions.find? symbol :=
  Table.find?_erase ..

theorem find?_applyFill_of_ne (p : PaperPortfolio) (f : Fill) {symbol : String}
    (other : symbol ≠ f.symbol) :
    ((applyFill f).left p).positions.find? symbol = p.positions.find? symbol := by
  have outcome := applyFill_cases f p
  unfold Method.left
  generalize (applyFill f).exec p = out at outcome
  cases outcome with
  | refused e empty => rfl
  | opened positive flat =>
    rw [find?_put]
    exact if_neg other
  | added positive existing held along | reduced positive existing held against left =>
    have same : existing.symbol = f.symbol := Table.key_of_find? held
    rw [find?_put]
    exact if_neg fun here => other (here.trans same)
  | closed positive existing held against exact =>
    rw [find?_dropped]
    exact if_neg other
  | reversed positive existing held against surplus =>
    rw [find?_put, find?_dropped]
    exact (if_neg other).trans (if_neg other)

theorem coreAt_applyFill_self (p : PaperPortfolio) {f : Fill} (positive : 0 < f.quantity) :
    ((applyFill f).left p).coreAt f.symbol = nextCore f (p.coreAt f.symbol) := by
  have outcome := applyFill_cases f p
  unfold Method.left coreAt
  generalize (applyFill f).exec p = out at outcome
  cases outcome with
  | refused e empty => exact absurd positive (not_lt.mpr empty)
  | opened positive flat =>
    have here : f.symbol = (PaperPosition.opened f f.quantity positive).symbol := rfl
    rw [find?_put, if_pos here, flat]
    rfl
  | added positive existing held along =>
    have here : f.symbol = (existing.added f positive).symbol := (Table.key_of_find? held).symm
    rw [find?_put, if_pos here, held]
    exact (if_pos along).symm
  | reduced positive existing held against left =>
    have here : f.symbol = (existing.reduced f f.quantity left).symbol :=
      (Table.key_of_find? held).symm
    rw [find?_put, if_pos here, held]
    exact ((if_neg against).trans (if_pos (sub_pos.mp left))).symm
  | closed positive existing held against exact =>
    rw [find?_dropped, if_pos rfl, held]
    refine ((if_neg against).trans ((if_neg ?_).trans (if_neg ?_))).symm
    · rw [exact]
      exact lt_irrefl _
    · rw [exact]
      exact lt_irrefl _
  | reversed positive existing held against surplus =>
    have beyond := sub_pos.mp surplus
    have here : f.symbol =
      (PaperPosition.opened f (f.quantity - existing.quantity) surplus).symbol := rfl
    rw [find?_put, if_pos here, held]
    exact ((if_neg against).trans ((if_neg (not_lt.mpr beyond.le)).trans (if_pos beyond))).symm

theorem left_of_refused (p : PaperPortfolio) {f : Fill} (empty : f.quantity ≤ 0) :
    (applyFill f).left p = p := by
  have outcome := applyFill_cases f p
  unfold Method.left
  generalize (applyFill f).exec p = out at outcome
  cases outcome with
  | refused e empty => rfl
  | opened positive flat | added positive existing held along
  | reduced positive existing held against left | closed positive existing held against exact =>
      exact absurd positive (not_lt.mpr empty)
  | reversed positive existing held against surplus => exact absurd positive (not_lt.mpr empty)

def SameCores (p q : PaperPortfolio) : Prop := ∀ symbol, p.coreAt symbol = q.coreAt symbol

theorem sameCores_applyFill {p q : PaperPortfolio} (same : SameCores p q) (f : Fill) :
    SameCores ((applyFill f).left p) ((applyFill f).left q) := by
  intro symbol
  by_cases positive : 0 < f.quantity
  · by_cases here : symbol = f.symbol
    · rw [here, coreAt_applyFill_self p positive, coreAt_applyFill_self q positive, same]
    · unfold coreAt
      rw [find?_applyFill_of_ne p f here, find?_applyFill_of_ne q f here]
      exact same symbol
  · rw [left_of_refused p (not_lt.mp positive), left_of_refused q (not_lt.mp positive)]
    exact same symbol

theorem sameCores_applyFills {p q : PaperPortfolio} (same : SameCores p q) (fills : List Fill) :
    SameCores (p.applyFills fills) (q.applyFills fills) := by
  induction fills generalizing p q with
  | nil => exact same
  | cons f fills ih => exact ih (sameCores_applyFill same f)

end PaperPortfolio

open PaperPortfolio

/-! ## What a pass leaves of a portfolio -/

def Outcome.net (o : Outcome) : ℚ :=
  (o.closed.map ClosedTrade.grossPnl).sum - (o.filled.map Fill.commission).getD 0

structure Passed (symbol : String) (p : PaperPortfolio) (outcomes : List Outcome)
    (q : PaperPortfolio) : Prop where
  balance : q.balance = p.balance + (outcomes.map Outcome.net).sum
  elsewhere : ∀ other, other ≠ symbol → q.positions.find? other = p.positions.find? other
  cores : SameCores (p.applyFills (outcomes.filterMap Outcome.filled)) q
  standing : (∀ o ∈ outcomes, o.closed = []) →
    ∀ position, p.positions.find? symbol = some position →
      ∃ later, q.positions.find? symbol = some later ∧ later.side = position.side ∧
        later.openedAt = position.openedAt
  unfilled : (∀ o ∈ outcomes, o.filled = none) → q.positions = p.positions
  closes : ∀ o ∈ outcomes, o.filled = none → o.closed = []

namespace Passed

variable {symbol : String} {p q r : PaperPortfolio}

theorem of_same (balance : q.balance = p.balance) (positions : q.positions = p.positions) :
    Passed symbol p [] q where
  balance := by rw [balance, List.map_nil, List.sum_nil, add_zero]
  elsewhere other _ := by rw [positions]
  cores symbol := by
    show p.coreAt symbol = q.coreAt symbol
    unfold coreAt
    rw [positions]
  standing _ position held := ⟨position, by rw [positions, held], rfl, rfl⟩
  unfilled _ := positions
  closes _ mem := by cases mem

theorem trans (here : Passed symbol p first q) (there : Passed symbol q second r) :
    Passed symbol p (first ++ second) r where
  balance := by
    rw [there.balance, here.balance, List.map_append, List.sum_append, add_assoc]
  elsewhere other ne := (there.elsewhere other ne).trans (here.elsewhere other ne)
  cores := by
    rw [List.filterMap_append]
    intro s
    unfold applyFills
    rw [List.foldl_append]
    exact (sameCores_applyFills here.cores _ s).trans (there.cores s)
  standing silent position held := by
    obtain ⟨middle, held', side, opened⟩ := here.standing
      (fun o mem => silent o (List.mem_append_left _ mem)) position held
    obtain ⟨later, held'', side', opened'⟩ := there.standing
      (fun o mem => silent o (List.mem_append_right _ mem)) middle held'
    exact ⟨later, held'', side'.trans side, opened'.trans opened⟩
  unfilled silent :=
    (there.unfilled fun o mem => silent o (List.mem_append_right _ mem)).trans
      (here.unfilled fun o mem => silent o (List.mem_append_left _ mem))
  closes o mem silent := by
    rcases List.mem_append.mp mem with mem | mem
    · exact here.closes o mem silent
    · exact there.closes o mem silent

theorem idle : Passed symbol p [{ filled := none, closed := [] }] p where
  balance := by simp [Outcome.net]
  elsewhere _ _ := rfl
  cores _ := rfl
  standing _ position held := ⟨position, held, rfl, rfl⟩
  unfilled _ := rfl
  closes o mem _ := by rw [List.mem_singleton.mp mem]

theorem of_fill {f : Fill} {closed : List ClosedTrade} (here : f.symbol = symbol)
    (made : (applyFill f).exec p = (.ok closed, q)) :
    Passed symbol p [{ filled := some f, closed }] q := by
  have left : (applyFill f).left p = q := by
    unfold Method.left
    rw [made]
  have outcome := applyFill_cases f p
  rw [made] at outcome
  subst here
  refine ⟨?_, fun other ne => ?_, fun s => ?_, fun silent position held => ?_, fun silent => ?_,
    fun o mem silent => ?_⟩
  · rw [List.map_singleton, List.sum_singleton]
    cases outcome with
    | opened positive flat | added positive existing held along =>
      show p.balance - f.commission = p.balance + (0 - f.commission)
      ring
    | reduced positive existing held against left | closed positive existing held against exact
    | reversed positive existing held against surplus =>
      show p.balance - f.commission + _ = p.balance + (_ + 0 - f.commission)
      ring
  · rw [← left]
    exact find?_applyFill_of_ne p f ne
  · rw [← left]
    rfl
  · have none := silent _ (List.mem_singleton_self _)
    cases outcome with
    | opened positive flat =>
      rw [flat] at held
      cases held
    | added positive existing held' along =>
      cases held'.symm.trans held
      refine ⟨position.added f positive, ?_, rfl, rfl⟩
      rw [find?_put]
      exact if_pos (Table.key_of_find? held).symm
    | reduced positive existing held' against left | closed positive existing held' against exact =>
        cases none
    | reversed positive existing held' against surplus => cases none
  · cases silent _ (List.mem_singleton_self _)
  · rw [List.mem_singleton.mp mem] at silent
    cases silent

theorem bracketed (passed : Passed symbol p first q) (stopLoss takeProfit : Option ℚ)
    (some_filled : ∃ o ∈ first, o.filled ≠ none) :
    Passed symbol p first (q.bracketed symbol stopLoss takeProfit) := by
  unfold PaperPortfolio.bracketed
  cases held : q.positions.find? symbol with
  | none => exact passed
  | some position =>
    have named : position.symbol = symbol := Table.key_of_find? held
    refine ⟨passed.balance, fun other ne => ?_, fun s => ?_, fun silent before held' => ?_,
      fun silent => ?_, passed.closes⟩
    · rw [find?_put, if_neg fun here => ne (here.trans named)]
      exact passed.elsewhere other ne
    · rw [passed.cores s]
      unfold coreAt
      rw [find?_put]
      split
      · next here =>
        have here : s = symbol := here.trans named
        rw [here, held]
        rfl
      · rfl
    · obtain ⟨later, held'', side, opened⟩ := passed.standing silent before held'
      cases held.symm.trans held''
      refine ⟨position.bracketed stopLoss takeProfit, ?_, side, opened⟩
      rw [find?_put]
      exact if_pos named.symm
    · obtain ⟨o, mem, filled⟩ := some_filled
      exact absurd (silent o mem) filled

end Passed

theorem passed_fillOnce {symbol : String} {p q : PaperPortfolio} {filled : Option Fill}
    {closed : List ClosedTrade} (here : ∀ f ∈ filled, f.symbol = symbol)
    (made : fillOnce p filled = .ok (closed, q)) : Passed symbol p [{ filled, closed }] q := by
  cases filled with
  | none =>
    cases made
    exact .idle
  | some f =>
    simp only [fillOnce] at made
    cases ran : (applyFill f).exec p with
    | mk answer after =>
      rw [ran] at made
      cases answer with
      | error e => cases made
      | ok trades =>
        cases made
        exact .of_fill (here f rfl) ran

namespace PaperBot

variable {b : PaperBot}

def Same (b b' : PaperBot) : Prop :=
  b'.run = b.run ∧ b'.accountId = b.accountId ∧ b'.symbol = b.symbol ∧ b'.perUnit = b.perUnit

theorem symbol_bracketFill {bar : PaperBar} {now : Time} :
    ∀ f ∈ b.bracketFill bar now, f.symbol = b.symbol := by
  intro f mem
  obtain ⟨p, -, mem⟩ := Option.bind_eq_some_iff.mp mem
  obtain ⟨hit, -, rfl⟩ := Option.map_eq_some_iff.mp mem
  rfl

theorem symbol_decidedFill {now : Time} {d : Decision} :
    ∀ f ∈ b.decidedFill now d, f.symbol = b.symbol := by
  intro f mem
  cases d with
  | quiet | considered => cases mem
  | exit price reason =>
    obtain ⟨p, -, rfl⟩ := Option.map_eq_some_iff.mp mem
    rfl
  | entry side quantity price stopLoss takeProfit =>
    obtain ⟨value, -, rfl⟩ := Option.map_eq_some_iff.mp mem
    rfl

theorem passed_sized (d : Decision) : Passed b.symbol b.portfolio [] (b.sized d) := by
  cases d with
  | quiet | exit price reason => exact .of_same rfl rfl
  | considered | entry side quantity price stopLoss takeProfit =>
    unfold sized
    dsimp only
    split
    · exact .of_same rfl rfl
    · exact .of_same rfl rfl

theorem passed_checkBrackets {bar : PaperBar} {now : Time}
    (checked : b.checkBrackets bar now = .ok (b', outcomes)) :
    Same b b' ∧ b'.lastPrice = b.lastPrice ∧ Passed b.symbol b.portfolio outcomes b'.portfolio := by
  unfold checkBrackets at checked
  cases filled : b.bracketFill bar now with
  | none =>
    rw [filled] at checked
    cases checked
    exact ⟨⟨rfl, rfl, rfl, rfl⟩, rfl, .of_same rfl rfl⟩
  | some f =>
    rw [filled] at checked
    dsimp only at checked
    cases made : fillOnce b.portfolio (some f) with
    | error e =>
      rw [made] at checked
      cases checked
    | ok result =>
      rw [made] at checked
      cases checked
      have here : ∀ g ∈ some f, g.symbol = b.symbol := filled ▸ symbol_bracketFill
      exact ⟨⟨rfl, rfl, rfl, rfl⟩, rfl, passed_fillOnce here made⟩

theorem passed_process {close : Option ℚ} {now : Time} {d : Decision}
    (processed : b.process close now d = .ok (b', outcomes)) :
    Same b b' ∧ Passed b.symbol b.portfolio outcomes b'.portfolio := by
  cases close with
  | none =>
    cases processed
    exact ⟨⟨rfl, rfl, rfl, rfl⟩, .idle⟩
  | some price =>
    simp only [process] at processed
    generalize priced : { b with lastPrice := some price } = c at processed
    have same : Same b c := by
      rw [← priced]
      exact ⟨rfl, rfl, rfl, rfl⟩
    have portfolio : c.portfolio = b.portfolio := by rw [← priced]
    cases made : fillOnce (c.sized d) (c.decidedFill now d) with
    | error e =>
      rw [made] at processed
      cases processed
    | ok result =>
      rw [made] at processed
      cases processed
      have filled := (passed_sized (b := c) d).trans
        (passed_fillOnce symbol_decidedFill made)
      rw [List.nil_append, portfolio, same.2.2.1] at filled
      refine ⟨⟨rfl, rfl, rfl, rfl⟩, ?_⟩
      cases d with
      | entry side quantity price stopLoss takeProfit =>
        show Passed _ _ _ (if c.perUnit.isSome = true then _ else _)
        split
        · next known =>
          rw [same.2.2.1]
          refine filled.bracketed stopLoss takeProfit ⟨_, List.mem_singleton_self _, ?_⟩
          obtain ⟨value, is⟩ := Option.isSome_iff_exists.mp known
          simp [decidedFill, is]
        · exact filled
      | _ => exact filled

theorem passed_evaluate {bar : PaperBar} {enough : Bool} {now : Time} {d : Decision}
    (evaluated : b.evaluate bar enough now d = .ok (b', outcomes)) :
    Same b b' ∧ Passed b.symbol b.portfolio outcomes b'.portfolio := by
  unfold evaluate at evaluated
  cases checked : b.checkBrackets bar now with
  | error e =>
    rw [checked] at evaluated
    cases evaluated
  | ok first =>
    rw [checked] at evaluated
    change ((first.1.process _ now d).bind _) = _ at evaluated
    cases processed : first.1.process (if enough = true then some bar.close else none) now d with
    | error e =>
      rw [processed] at evaluated
      cases evaluated
    | ok second =>
      rw [processed] at evaluated
      cases evaluated
      obtain ⟨same, -, here⟩ := passed_checkBrackets checked
      obtain ⟨same', there⟩ := passed_process processed
      rw [same.2.2.1] at there
      exact ⟨⟨same'.1.trans same.1, same'.2.1.trans same.2.1, same'.2.2.1.trans same.2.2.1,
        same'.2.2.2.trans same.2.2.2⟩, here.trans there⟩

end PaperBot

/-! ## Stored rows and a portfolio -/

def Matches (rows : List PositionRow) (p : PaperPortfolio) : Prop :=
  ∀ symbol, openRows rows symbol = ((p.positions.find? symbol).map PositionRow.of).toList

section Rows

variable {rows : List PositionRow} {symbol other : String} {live : Option PaperPosition}

theorem openRows_cons (r : PositionRow) (rows : List PositionRow) (symbol : String) :
    openRows (r :: rows) symbol =
      if (r.isOpen && decide (r.symbol = symbol)) = true then r :: openRows rows symbol
      else openRows rows symbol :=
  List.filter_cons ..

theorem rewrite_cons (r : PositionRow) (rows : List PositionRow) (symbol : String) :
    rewrite (r :: rows) symbol f =
      (if (r.isOpen && decide (r.symbol = symbol)) = true then f r else r) ::
        rewrite rows symbol f :=
  List.map_cons ..

theorem openRows_append (rows rows' : List PositionRow) (symbol : String) :
    openRows (rows ++ rows') symbol = openRows rows symbol ++ openRows rows' symbol :=
  List.filter_append ..

theorem openRows_rewrite_of_ne (keeps : ∀ r, (f r).symbol = r.symbol) (ne : other ≠ symbol) :
    openRows (rewrite rows symbol f) other = openRows rows other := by
  induction rows with
  | nil => rfl
  | cons r rows ih =>
    rw [rewrite_cons, openRows_cons, openRows_cons, ih]
    split
    · next hit =>
      have named : r.symbol = symbol := by
        rw [Bool.and_eq_true, decide_eq_true_iff] at hit
        exact hit.2
      have away : ∀ flag : Bool, (flag && decide (r.symbol = other)) = false := fun flag => by
        rw [decide_eq_false fun here => ne (here.symm.trans named), Bool.and_false]
      rw [keeps, away, away]
      rfl
    · rfl

theorem openRows_rewrite_self (keeps : ∀ r, (f r).symbol = r.symbol)
    (stays : ∀ r, (f r).isOpen = r.isOpen) :
    openRows (rewrite rows symbol f) symbol = (openRows rows symbol).map f := by
  induction rows with
  | nil => rfl
  | cons r rows ih =>
    rw [rewrite_cons, openRows_cons, openRows_cons, ih]
    by_cases hit : (r.isOpen && decide (r.symbol = symbol)) = true
    · rw [if_pos hit, if_pos hit, keeps, stays, if_pos hit, List.map_cons]
    · rw [if_neg hit, if_neg hit, if_neg hit]

theorem openRows_rewrite_closed :
    openRows (rewrite rows symbol fun r => { r with isOpen := false }) symbol = [] := by
  induction rows with
  | nil => rfl
  | cons r rows ih =>
    rw [rewrite_cons, openRows_cons, ih]
    by_cases hit : (r.isOpen && decide (r.symbol = symbol)) = true
    · rw [if_pos hit]
      rfl
    · rw [if_neg hit, if_neg hit]

theorem openRows_singleton_of (p : PaperPosition) (symbol : String) :
    openRows [PositionRow.of p] symbol = if p.symbol = symbol then [PositionRow.of p] else [] := by
  rw [openRows_cons]
  show (if (true && decide (p.symbol = symbol)) = true then _ else _) = _
  split
  · next here => rw [if_pos (of_decide_eq_true here)]; rfl
  · next there => rw [if_neg fun here => there (decide_eq_true here)]; rfl

def Near (rows : List PositionRow) (symbol : String) (live : Option PaperPosition) : Prop :=
  openRows rows symbol = [] ∨
    ∃ r p, openRows rows symbol = [r] ∧ live = some p ∧ r.side = p.side ∧ r.openedAt = p.openedAt

def InLine (rows : List PositionRow) (symbol : String) (live : Option PaperPosition) : Prop :=
  openRows rows symbol = (live.map PositionRow.of).toList

theorem InLine.near (line : InLine rows symbol live) : Near rows symbol live := by
  cases live with
  | none => exact .inl line
  | some p => exact .inr ⟨PositionRow.of p, p, line, rfl, rfl, rfl⟩

theorem PositionRow.updated_eq {r : PositionRow} {p : PaperPosition} (isOpen : r.isOpen = true)
    (named : r.symbol = p.symbol) (side : r.side = p.side) (since : r.openedAt = p.openedAt) :
    r.updated p = PositionRow.of p := by
  cases r
  cases isOpen
  cases named
  cases side
  cases since
  rfl

theorem openRows_persistPositions_of_ne (named : ∀ p ∈ live, p.symbol = symbol)
    (ne : other ≠ symbol) :
    openRows (persistPositions rows symbol live closed) other = openRows rows other := by
  have kept : openRows (if closed = [] then rows
        else rewrite rows symbol fun r => { r with isOpen := false }) other =
      openRows rows other := by
    split
    · rfl
    · exact openRows_rewrite_of_ne (fun _ => rfl) ne
  unfold persistPositions
  cases live with
  | none => exact kept
  | some p =>
    dsimp only
    split
    · rw [openRows_append, kept, openRows_singleton_of,
        if_neg fun here => ne (here.symm.trans (named p rfl)), List.append_nil]
    · rw [openRows_rewrite_of_ne (f := fun r => r.updated p) (fun _ => rfl) ne, kept]

theorem inLine_persistPositions (named : ∀ p ∈ live, p.symbol = symbol)
    (ready : closed ≠ [] ∨ Near rows symbol live) :
    InLine (persistPositions rows symbol live closed) symbol live := by
  unfold InLine persistPositions
  by_cases silent : closed = []
  · have near := ready.resolve_left fun ne => ne silent
    rw [if_pos silent]
    cases live with
    | none =>
      rcases near with flat | ⟨r, p, _, is, _⟩
      · exact flat
      · cases is
    | some p =>
      dsimp only
      rcases near with flat | ⟨r, p', one, is, side, since⟩
      · rw [if_pos (.inl flat), openRows_append, flat, openRows_singleton_of, if_pos (named p rfl)]
        rfl
      · cases is
        have mem : r ∈ openRows rows symbol := by rw [one]; exact List.mem_singleton_self r
        have hit := (List.mem_filter.mp mem).2
        rw [Bool.and_eq_true, decide_eq_true_iff] at hit
        rw [if_neg (by simp [one, silent]),
          openRows_rewrite_self (f := fun r => r.updated p) (fun _ => rfl) (fun _ => rfl), one,
          List.map_singleton,
          PositionRow.updated_eq hit.1 (hit.2.trans (named p rfl).symm) side since]
        rfl
  · rw [if_neg silent]
    cases live with
    | none => exact openRows_rewrite_closed
    | some p =>
      dsimp only
      rw [if_pos (.inr silent), openRows_append, openRows_rewrite_closed, openRows_singleton_of,
        if_pos (named p rfl)]
      rfl

def writeAll (symbol : String) (live : Option PaperPosition) (rows : List PositionRow)
    (outcomes : List Outcome) : List PositionRow :=
  outcomes.foldl (fun rows o => persistPositions rows symbol live o.closed) rows

theorem openRows_writeAll_of_ne (named : ∀ p ∈ live, p.symbol = symbol) (ne : other ≠ symbol)
    (outcomes : List Outcome) :
    openRows (writeAll symbol live rows outcomes) other = openRows rows other := by
  induction outcomes generalizing rows with
  | nil => rfl
  | cons o outcomes ih => exact ih.trans (openRows_persistPositions_of_ne named ne)

theorem inLine_writeAll (named : ∀ p ∈ live, p.symbol = symbol) {outcomes : List Outcome}
    (ready : (∃ o ∈ outcomes, o.closed ≠ []) ∨ Near rows symbol live)
    (written : outcomes ≠ [] ∨ InLine rows symbol live) :
    InLine (writeAll symbol live rows outcomes) symbol live := by
  induction outcomes generalizing rows with
  | nil => exact written.resolve_left fun ne => ne rfl
  | cons o outcomes ih =>
    by_cases here : o.closed ≠ [] ∨ Near rows symbol live
    · have line := inLine_persistPositions named here
      exact ih (.inr line.near) (.inr line)
    · rw [not_or, not_not] at here
      obtain ⟨later, mem, closes⟩ := ready.resolve_right here.2
      have rest : later ∈ outcomes := by
        rcases List.mem_cons.mp mem with rfl | rest
        · exact absurd here.1 closes
        · exact rest
      exact ih (.inl ⟨later, rest, closes⟩) (.inl fun none => by rw [none] at rest; cases rest)

end Rows

namespace PaperAccountRow

variable {a : PaperAccountRow} {b : PaperBot} {p : PaperPortfolio}

def fillsOf (outcomes : List Outcome) : List RecordedFill :=
  outcomes.filterMap fun o => o.filled.map fun fill => { fill, closed := o.closed }

theorem foldl_record (a : PaperAccountRow) (symbol : String) (live : Option PaperPosition)
    (outcomes : List Outcome) :
    outcomes.foldl (fun a o => a.record symbol live o) a =
      { a with
        fills := a.fills ++ fillsOf outcomes
        positions := writeAll symbol live a.positions outcomes } := by
  induction outcomes generalizing a with
  | nil =>
    show a = { a with fills := a.fills ++ [] }
    rw [List.append_nil]
  | cons o outcomes ih =>
    rw [List.foldl_cons, ih]
    unfold record fillsOf
    rw [List.filterMap_cons]
    cases o.filled with
    | none | some f => simp [writeAll]

theorem matches_writeAll (before : Matches a.positions p)
    (passed : Passed b.symbol p outcomes b.portfolio) :
    Matches (writeAll b.symbol (b.portfolio.positions.find? b.symbol) a.positions outcomes)
      b.portfolio := by
  have named : ∀ position ∈ b.portfolio.positions.find? b.symbol, position.symbol = b.symbol :=
    fun _ held => Table.key_of_find? held
  intro symbol
  by_cases here : symbol = b.symbol
  · subst here
    refine inLine_writeAll named ?_ ?_
    · by_cases silent : ∀ o ∈ outcomes, o.closed = []
      · right
        cases held : p.positions.find? b.symbol with
        | none =>
          left
          rw [before b.symbol, held]
          rfl
        | some position =>
          right
          obtain ⟨later, held', side, since⟩ := passed.standing silent position held
          refine ⟨PositionRow.of position, later, ?_, held', side.symm, since.symm⟩
          rw [before b.symbol, held]
          rfl
      · left
        rw [not_forall] at silent
        obtain ⟨o, closes⟩ := silent
        rw [Classical.not_imp] at closes
        exact ⟨o, closes⟩
    · cases outcomes with
      | nil =>
        right
        have positions := passed.unfilled fun o mem => by cases mem
        unfold InLine
        rw [before b.symbol, positions]
      | cons o outcomes => exact .inl (List.cons_ne_nil o outcomes)
  · rw [openRows_writeAll_of_ne named here, before symbol, passed.elsewhere symbol here]

/-! ## A sound account -/

end PaperAccountRow

def RecordedFill.net (r : RecordedFill) : ℚ :=
  (r.closed.map ClosedTrade.grossPnl).sum - r.fill.commission

def replay (fills : List RecordedFill) : PaperPortfolio :=
  (fresh 0).applyFills (fills.map RecordedFill.fill)

structure Sound (a : PaperAccountRow) : Prop where
  balance : a.balance = a.startingBalance + (a.fills.map RecordedFill.net).sum
  positions : ∀ symbol, (openRows a.positions symbol).map PositionRow.core =
    ((replay a.fills).coreAt symbol).toList

namespace PaperAccountRow

variable {a : PaperAccountRow} {b : PaperBot} {p : PaperPortfolio}

theorem core_of_matches {rows : List PositionRow} (same : Matches rows p) (symbol : String) :
    (openRows rows symbol).map PositionRow.core = (p.coreAt symbol).toList := by
  rw [same symbol]
  unfold coreAt
  cases p.positions.find? symbol <;> rfl

theorem sameCores_replay (sound : Sound a) (same : Matches a.positions p) :
    SameCores (replay a.fills) p := by
  intro symbol
  have both := (sound.positions symbol).symm.trans (core_of_matches same symbol)
  cases one : (replay a.fills).coreAt symbol with
  | none =>
    rw [one] at both
    cases other : p.coreAt symbol with
    | none => rfl
    | some core =>
      rw [other] at both
      cases both
  | some core =>
    rw [one] at both
    cases other : p.coreAt symbol with
    | none =>
      rw [other] at both
      cases both
    | some core' =>
      rw [other] at both
      rw [List.singleton_inj.mp both]

theorem sum_fillsOf (closes : ∀ o ∈ outcomes, o.filled = none → o.closed = []) :
    ((fillsOf outcomes).map RecordedFill.net).sum = (outcomes.map Outcome.net).sum := by
  induction outcomes with
  | nil => rfl
  | cons o outcomes ih =>
    have rest := ih fun o mem => closes o (List.mem_cons_of_mem _ mem)
    unfold fillsOf at rest ⊢
    rw [List.filterMap_cons, List.map_cons, List.sum_cons, ← rest]
    unfold Outcome.net
    cases filled : o.filled with
    | none =>
      rw [closes o (List.mem_cons_self ..) filled]
      simp
    | some f =>
      rfl

theorem fill_fillsOf (outcomes : List Outcome) :
    (fillsOf outcomes).map RecordedFill.fill = outcomes.filterMap Outcome.filled := by
  unfold fillsOf
  rw [List.map_filterMap]
  refine List.filterMap_congr fun o _ => ?_
  cases o.filled <;> rfl

theorem sound_persist {known : Bool} (sound : Sound a) (balance : p.balance = a.balance)
    (same : Matches a.positions p) (passed : Passed b.symbol p outcomes b.portfolio)
    (stored : known = true ∨ ∀ o ∈ outcomes, o.filled = none) (equity : ℚ) :
    Sound ((a.recorded known b outcomes).persist (b.portfolio.equity b.prices).2 equity) ∧
      Matches (a.recorded known b outcomes).positions b.portfolio := by
  by_cases written : known = true
  · have recorded : a.recorded known b outcomes = _ := (if_pos written).trans (foldl_record ..)
    rw [recorded]
    have after := matches_writeAll same passed
    refine ⟨⟨?_, fun symbol => ?_⟩, after⟩
    · show b.portfolio.balance = a.startingBalance + ((a.fills ++ fillsOf outcomes).map _).sum
      rw [passed.balance, balance, sound.balance, List.map_append, List.sum_append,
        sum_fillsOf passed.closes, add_assoc]
    · have cores : SameCores (replay (a.fills ++ fillsOf outcomes)) b.portfolio := by
        unfold replay applyFills
        rw [List.map_append, List.foldl_append, fill_fillsOf]
        intro symbol
        exact (sameCores_applyFills (sameCores_replay sound same) _ symbol).trans
          (passed.cores symbol)
      exact (core_of_matches after symbol).trans (congrArg _ (cores symbol).symm)
  · have unfilled := stored.resolve_left written
    have recorded : a.recorded known b outcomes = a := if_neg written
    have positions := passed.unfilled unfilled
    have none : (outcomes.map Outcome.net).sum = 0 := by
      refine List.sum_eq_zero fun x mem => ?_
      obtain ⟨o, here, rfl⟩ := List.mem_map.mp mem
      unfold Outcome.net
      rw [passed.closes o here (unfilled o here), unfilled o here]
      exact sub_zero 0
    rw [recorded]
    refine ⟨⟨?_, sound.positions⟩, fun symbol => ?_⟩
    · show b.portfolio.balance = _
      rw [passed.balance, none, add_zero, balance, sound.balance]
      rfl
    · rw [same symbol, positions]

theorem matches_restore {symbol : String} {perUnit : Option ℚ} {q : PaperPortfolio}
    (sound : Sound a) (named : ∀ r ∈ a.positions, r.isOpen = true → r.symbol = symbol)
    (empty : p.positions = Table.empty _)
    (restored : restorePositions p a.positions symbol perUnit = some q) :
    q.balance = p.balance ∧ Matches a.positions q := by
  have flat : ∀ s, p.positions.find? s = none := fun s => by rw [empty]; rfl
  have others : ∀ s, s ≠ symbol → openRows a.positions s = [] := by
    intro s ne
    refine List.filter_eq_nil_iff.mpr fun r mem hit => ?_
    rw [Bool.and_eq_true, decide_eq_true_iff] at hit
    exact ne (hit.2.symm.trans (named r mem hit.1))
  have own : openRows a.positions symbol = a.positions.filter PositionRow.isOpen := by
    refine List.filter_congr fun r mem => ?_
    cases isOpen : r.isOpen with
    | false => rfl
    | true => rw [decide_eq_true (named r mem isOpen), Bool.and_true]
  unfold restorePositions at restored
  rw [← own] at restored
  cases rows : openRows a.positions symbol with
  | nil =>
    rw [rows] at restored
    cases restored
    refine ⟨rfl, fun s => ?_⟩
    rw [flat]
    by_cases here : s = symbol
    · rw [here]
      exact rows
    · exact others s here
  | cons r rest =>
    have single : rest = [] := by
      have one := sound.positions symbol
      rw [rows] at one
      have bound : ((r :: rest).map PositionRow.core).length ≤ 1 := by
        rw [one]
        cases (replay a.fills).coreAt symbol with
        | none => exact Nat.zero_le 1
        | some _ => exact Nat.le_refl 1
      rw [List.length_map, List.length_cons] at bound
      exact List.length_eq_zero_iff.mp (by omega)
    subst single
    rw [rows] at restored
    obtain ⟨value, -, rfl⟩ := Option.map_eq_some_iff.mp restored
    have mem : r ∈ openRows a.positions symbol := by rw [rows]; exact List.mem_singleton_self r
    have hit := (List.mem_filter.mp mem).2
    rw [Bool.and_eq_true, decide_eq_true_iff] at hit
    refine ⟨rfl, fun s => ?_⟩
    have written : (p.put (r.restored symbol value)).positions.find? s =
        if s = symbol then some (r.restored symbol value) else p.positions.find? s :=
      find?_put ..
    show _ = (((p.put (r.restored symbol value)).positions.find? s).map PositionRow.of).toList
    rw [written]
    by_cases here : s = symbol
    · rw [if_pos here, here, rows]
      have same : PositionRow.of (r.restored symbol value) = r := by
        obtain ⟨isOpen, there⟩ := hit
        cases r
        cases isOpen
        cases there
        rfl
      rw [Option.map_some, same]
      rfl
    · rw [if_neg here, flat]
      exact others s here

end PaperAccountRow

/-! ## Runs -/

namespace PaperAccounts

variable {s : PaperAccounts}

def Follows (a : PaperAccountRow) (b : PaperBot) : Prop :=
  match b.phase with
  | .loading => b.portfolio.balance = a.balance ∧ b.portfolio.positions = Table.empty _
  | .idle => b.portfolio.balance = a.balance ∧ Matches a.positions b.portfolio
  | .evaluated outcomes =>
    ∃ p : PaperPortfolio, p.balance = a.balance ∧ Matches a.positions p ∧
      Passed b.symbol p outcomes b.portfolio
  | .gone => True

def Ledger (s : PaperAccounts) : Prop := ∀ a ∈ s.accounts.rows, Sound a

structure Orderly (s : PaperAccounts) : Prop where
  ledger : s.Ledger
  alone : ∀ b ∈ s.bots.rows, ∀ b' ∈ s.bots.rows, b.phase.live = true → b'.phase.live = true →
    b.accountId = b'.accountId → b = b'
  follows : ∀ b ∈ s.bots.rows, b.phase.live = true →
    ∃ a, s.accounts.find? b.accountId = some a ∧ Follows a b

def Conduct (s : PaperAccounts) : AccountEvent → Prop
  | .load _ start =>
    ¬ s.Held start.accountId ∧ ∀ a ∈ s.accounts.find? start.accountId, a.balance ≠ 0
  | .restore run =>
    ∀ b ∈ s.bots.find? run, ∀ a ∈ s.accounts.find? b.accountId,
      ∀ r ∈ a.positions, r.isOpen = true → r.symbol = b.symbol
  | .persist run known =>
    known = true ∨ ∀ b ∈ s.bots.find? run, ∀ o ∈ b.phase.outcomes, o.filled = none
  | .reset id _ => ¬ s.Held id
  | _ => True

instance decidableHeld (s : PaperAccounts) (accountId : String) : Decidable (s.Held accountId) :=
  inferInstanceAs
    (Decidable (∃ b ∈ s.bots.rows, b.accountId = accountId ∧ b.phase.live = true))

instance decidableConduct (s : PaperAccounts) : ∀ e, Decidable (s.Conduct e)
  | .load _ start =>
    inferInstanceAs (Decidable (¬ s.Held start.accountId ∧
      ∀ a ∈ s.accounts.find? start.accountId, a.balance ≠ 0))
  | .restore run =>
    inferInstanceAs (Decidable (∀ b ∈ s.bots.find? run, ∀ a ∈ s.accounts.find? b.accountId,
      ∀ r ∈ a.positions, r.isOpen = true → r.symbol = b.symbol))
  | .persist run known =>
    inferInstanceAs (Decidable (known = true ∨
      ∀ b ∈ s.bots.find? run, ∀ o ∈ b.phase.outcomes, o.filled = none))
  | .reset id _ => inferInstanceAs (Decidable (¬ s.Held id))
  | .create _ _ | .evaluate _ _ _ _ _ | .stop _ => isTrue True.intro

/-! ### One step -/

theorem orderly_put {b b' : PaperBot} (orderly : s.Orderly) (found : s.bots.find? b.run = some b)
    (run : b'.run = b.run) (account : b'.accountId = b.accountId)
    (live : b'.phase.live = true → b.phase.live = true)
    (follows : ∀ a, s.accounts.find? b.accountId = some a → Follows a b → Follows a b') :
    (s.put b').Orderly := by
  have mem := Table.mem_rows_iff.mpr found
  refine ⟨orderly.ledger, ?_, ?_⟩
  · intro x memX y memY liveX liveY same
    rcases Table.mem_put.mp memX with ⟨oldX, otherX⟩ | rfl <;>
      rcases Table.mem_put.mp memY with ⟨oldY, otherY⟩ | rfl
    · exact orderly.alone x oldX y oldY liveX liveY same
    · have here := orderly.alone x oldX b mem liveX (live liveY) (same.trans account)
      exact absurd (here ▸ run.symm) otherX
    · have here := orderly.alone y oldY b mem liveY (live liveX) (same.symm.trans account)
      exact absurd (here ▸ run.symm) otherY
    · rfl
  · intro x memX liveX
    rcases Table.mem_put.mp memX with ⟨oldX, _⟩ | rfl
    · exact orderly.follows x oldX liveX
    · obtain ⟨a, holds, before⟩ := orderly.follows b mem (live liveX)
      exact ⟨a, account.symm ▸ holds, follows a holds before⟩

theorem orderly_putAccount {a : PaperAccountRow} (orderly : s.Orderly) (sound : Sound a)
    (free : ¬ s.Held a.id) : Orderly { s with accounts := s.accounts.put a } := by
  refine ⟨fun x mem => ?_, orderly.alone, fun b mem live => ?_⟩
  · rcases Table.mem_put.mp mem with ⟨old, _⟩ | rfl
    · exact orderly.ledger x old
    · exact sound
  · obtain ⟨x, holds, follows⟩ := orderly.follows b mem live
    refine ⟨x, ?_, follows⟩
    rw [Table.find?_put, if_neg fun here => free ⟨b, mem, here, live⟩]
    exact holds

theorem orderly_write {b b' : PaperBot} {a : PaperAccountRow} (orderly : s.Orderly)
    (found : s.bots.find? b.run = some b) (live : b.phase.live = true) (run : b'.run = b.run)
    (account : b'.accountId = b.accountId) (own : a.id = b.accountId) (sound : Sound a)
    (follows : Follows a b') : Orderly { s.put b' with accounts := s.accounts.put a } := by
  have mem := Table.mem_rows_iff.mpr found
  refine ⟨fun x mem => ?_, ?_, ?_⟩
  · rcases Table.mem_put.mp mem with ⟨old, _⟩ | rfl
    · exact orderly.ledger x old
    · exact sound
  · intro x memX y memY liveX liveY same
    rcases Table.mem_put.mp memX with ⟨oldX, otherX⟩ | rfl <;>
      rcases Table.mem_put.mp memY with ⟨oldY, otherY⟩ | rfl
    · exact orderly.alone x oldX y oldY liveX liveY same
    · have here := orderly.alone x oldX b mem liveX live (same.trans account)
      exact absurd (here ▸ run.symm) otherX
    · have here := orderly.alone y oldY b mem liveY live (same.symm.trans account)
      exact absurd (here ▸ run.symm) otherY
    · rfl
  · intro x memX liveX
    rw [Table.find?_put]
    rcases Table.mem_put.mp memX with ⟨oldX, otherX⟩ | rfl
    · rw [if_neg fun here => ?_]
      · exact orderly.follows x oldX liveX
      · have same := orderly.alone x oldX b mem liveX live (here.trans own)
        exact otherX (same ▸ run.symm)
    · rw [if_pos (account.trans own.symm)]
      exact ⟨a, rfl, follows⟩

theorem orderly_load {b : PaperBot} {a : PaperAccountRow} (orderly : s.Orderly)
    (free : ¬ s.Held b.accountId) (holds : s.accounts.find? b.accountId = some a)
    (follows : Follows a b) : (s.put b).Orderly := by
  refine ⟨orderly.ledger, ?_, ?_⟩
  · intro x memX y memY liveX liveY same
    rcases Table.mem_put.mp memX with ⟨oldX, _⟩ | rfl <;>
      rcases Table.mem_put.mp memY with ⟨oldY, _⟩ | rfl
    · exact orderly.alone x oldX y oldY liveX liveY same
    · exact absurd ⟨x, oldX, same, liveX⟩ free
    · exact absurd ⟨y, oldY, same.symm, liveY⟩ free
    · rfl
  · intro x memX liveX
    rcases Table.mem_put.mp memX with ⟨oldX, _⟩ | rfl
    · exact orderly.follows x oldX liveX
    · exact ⟨a, holds, follows⟩

theorem sound_of_empty {a : PaperAccountRow} (fills : a.fills = [])
    (balance : a.balance = a.startingBalance)
    (closed : ∀ r ∈ a.positions, r.isOpen = false) : Sound a := by
  refine ⟨?_, fun symbol => ?_⟩
  · rw [fills, balance, List.map_nil, List.sum_nil, add_zero]
  · have none : openRows a.positions symbol = [] := by
      refine List.filter_eq_nil_iff.mpr fun r mem hit => ?_
      rw [closed r mem, Bool.false_and] at hit
      cases hit
    rw [none, fills]
    rfl

theorem follows_of_found {run : ℕ} {b : PaperBot} {a : PaperAccountRow} (orderly : s.Orderly)
    (found : s.bots.find? run = some b) (holds : s.accounts.find? b.accountId = some a)
    (live : b.phase.live = true) : Follows a b := by
  obtain ⟨a', holds', follows⟩ :=
    orderly.follows b (List.mem_of_find?_eq_some found) live
  cases holds.symm.trans holds'
  exact follows

theorem orderly_restore {run : ℕ} (orderly : s.Orderly) (conduct : s.Conduct (.restore run))
    (taken : s.step (.restore run) = some t) : t.Orderly := by
  obtain ⟨b, found, taken⟩ := Option.bind_eq_some_iff.mp taken
  obtain ⟨a, holds, taken⟩ := Option.bind_eq_some_iff.mp taken
  have key := Table.key_of_find? found
  cases phase : b.phase with
  | loading =>
    rw [phase] at taken
    obtain ⟨portfolio, restored, rfl⟩ := Option.map_eq_some_iff.mp taken
    have live : b.phase.live = true := by rw [phase]; rfl
    refine orderly_put (b := b) orderly (key ▸ found) rfl rfl (fun _ => live) ?_
    intro a' holds' before
    cases holds.symm.trans holds'
    unfold Follows at before ⊢
    rw [phase] at before
    have sound := orderly.ledger a (List.mem_of_find?_eq_some holds)
    obtain ⟨balance, same⟩ :=
      PaperAccountRow.matches_restore sound (conduct b found a holds) before.2 restored
    exact ⟨balance.trans before.1, same⟩
  | idle | evaluated _ | gone =>
    rw [phase] at taken
    cases taken

theorem orderly_evaluate {run : ℕ} {bar : PaperBar} {enough : Bool} {now : Time} {d : Decision}
    (orderly : s.Orderly) (taken : s.step (.evaluate run bar enough now d) = some t) :
    t.Orderly := by
  obtain ⟨b, found, taken⟩ := Option.bind_eq_some_iff.mp taken
  have key := Table.key_of_find? found
  cases phase : b.phase with
  | idle =>
    rw [phase] at taken
    have live : b.phase.live = true := by rw [phase]; rfl
    cases evaluated : b.evaluate bar enough now d with
    | error e =>
      rw [evaluated] at taken
      cases taken
      refine orderly_put (b := b) orderly (key ▸ found) rfl rfl (fun _ => live) ?_
      exact fun _ _ _ => True.intro
    | ok made =>
      rw [evaluated] at taken
      cases taken
      obtain ⟨same, passed⟩ := PaperBot.passed_evaluate evaluated
      refine orderly_put (b := b) orderly (key ▸ found) same.1 same.2.1 (fun _ => live) ?_
      intro a _ before
      unfold Follows at before ⊢
      rw [phase] at before
      refine ⟨b.portfolio, before.1, before.2, ?_⟩
      rw [← same.2.2.1] at passed
      exact passed
  | loading | evaluated _ | gone =>
    rw [phase] at taken
    cases taken

theorem orderly_persist {run : ℕ} {known : Bool} (orderly : s.Orderly)
    (conduct : s.Conduct (.persist run known)) (taken : s.step (.persist run known) = some t) :
    t.Orderly := by
  obtain ⟨b, found, taken⟩ := Option.bind_eq_some_iff.mp taken
  obtain ⟨a, holds, taken⟩ := Option.bind_eq_some_iff.mp taken
  have key := Table.key_of_find? found
  cases phase : b.phase with
  | evaluated outcomes =>
    rw [phase] at taken
    cases taken
    have live : b.phase.live = true := by rw [phase]; rfl
    have before := follows_of_found orderly found holds live
    unfold Follows at before
    rw [phase] at before
    obtain ⟨p, balance, same, passed⟩ := before
    have stored : known = true ∨ ∀ o ∈ outcomes, o.filled = none :=
      conduct.imp_right fun unfilled o mem => unfilled b found o (by rw [phase]; exact mem)
    have sound := orderly.ledger a (List.mem_of_find?_eq_some holds)
    obtain ⟨sound', same'⟩ := PaperAccountRow.sound_persist sound balance same passed stored
      (b.portfolio.equity b.prices).1
    have own : (a.recorded known b outcomes).id = a.id := by
      unfold PaperAccountRow.recorded
      split
      · rw [PaperAccountRow.foldl_record]
      · rfl
    refine orderly_write orderly (key ▸ found) live rfl rfl ?_ sound' ⟨rfl, same'⟩
    exact own.trans (Table.key_of_find? holds)
  | loading | idle | gone =>
    rw [phase] at taken
    cases taken

theorem orderly_step {e : AccountEvent} (orderly : s.Orderly) (conduct : s.Conduct e)
    (taken : s.step e = some t) : t.Orderly := by
  cases e with
  | create id startingBalance =>
    simp only [step] at taken
    split at taken
    · next fresh =>
      cases taken
      refine orderly_putAccount orderly (sound_of_empty rfl rfl fun r mem => by cases mem) ?_
      rintro ⟨b, mem, account, live⟩
      obtain ⟨a, holds, -⟩ := orderly.follows b mem live
      rw [account, fresh.1] at holds
      cases holds
    · cases taken
  | load run start =>
    simp only [step] at taken
    split at taken
    · obtain ⟨a, holds, rfl⟩ := Option.map_eq_some_iff.mp taken
      have own : a.id = start.accountId := Table.key_of_find? holds
      refine orderly_load (b := started run start a) orderly ?_ ?_ (a := a) ⟨?_, rfl⟩
      · show ¬ s.Held a.id
        rw [own]
        exact conduct.1
      · show s.accounts.find? a.id = some a
        rw [own]
        exact holds
      · exact if_neg (conduct.2 a holds)
    · cases taken
  | restore run => exact orderly_restore orderly conduct taken
  | evaluate run bar enough now d => exact orderly_evaluate orderly taken
  | persist run known => exact orderly_persist orderly conduct taken
  | stop run =>
    obtain ⟨b, found, rfl⟩ := Option.map_eq_some_iff.mp taken
    have key := Table.key_of_find? found
    refine orderly_put (b := b) orderly (key ▸ found) rfl rfl (fun live => by cases live) ?_
    exact fun _ _ _ => True.intro
  | reset id startingBalance =>
    obtain ⟨a, holds, rfl⟩ := Option.map_eq_some_iff.mp taken
    have own : a.id = id := Table.key_of_find? holds
    refine orderly_putAccount orderly (sound_of_empty rfl rfl fun r mem => ?_) ?_
    · obtain ⟨r', _, rfl⟩ := List.mem_map.mp mem
      rfl
    · exact own.symm ▸ conduct

theorem orderly_initial : Orderly {} where
  ledger a mem := by cases mem
  alone b mem := by cases mem
  follows b mem := by cases mem

/-- On a run on which one bot at a time holds an account and starts from positions in its own
symbol, every account is sound in every state. -/
theorem ledger_of_conduct (events : List AccountEvent) (meets : Run.Meets step Conduct {} events) :
    Run.Along step Ledger {} events := by
  have along : Run.Along step Orderly {} events :=
    Run.along_of_meets (fun s e t orderly conduct taken => orderly_step orderly conduct taken)
      orderly_initial meets
  exact along.mono fun s orderly => orderly.ledger

/-! ### Two bots on an account -/

private def startOn (symbol : String) : BotStart :=
  { accountId := "A", symbol, perUnit := some 1, commissionPerTrade := 1, strategyId := none }

private def someBar : PaperBar := { low := 10, high := 10, close := 10 }

private def buyOne : Decision := .entry "buy" 1 10 none none

private def oneAfterAnother : List AccountEvent :=
  [.create "A" 1000, .load 1 (startOn "EURUSD"), .restore 1, .evaluate 1 someBar true 0 buyOne,
    .persist 1 true, .stop 1, .load 2 (startOn "EURUSD"), .restore 2,
    .evaluate 2 someBar true 1 (.exit 12 "exit"), .persist 2 true]

private def sideBySide : List AccountEvent :=
  [.create "A" 1000, .load 1 (startOn "EURUSD"), .restore 1, .load 2 (startOn "GBPUSD"),
    .restore 2, .evaluate 1 someBar true 0 buyOne, .evaluate 2 someBar true 0 buyOne,
    .persist 1 true, .persist 2 true]

/-- One bot after the other loses nothing. -/
theorem ledger_of_oneAfterAnother : Run.Along step Ledger {} oneAfterAnother :=
  ledger_of_conduct oneAfterAnother (by decide +kernel)

/-- Of two bots that hold an account, the later write takes back what the earlier one recorded. -/
theorem not_forall_ledger : ¬ ∀ events, Run.Along step Ledger {} events := by
  intro always
  have lost : (Run.exec step {} sideBySide).any fun s => s.accounts.rows.any fun a =>
      decide (a.balance ≠ a.startingBalance + (a.fills.map RecordedFill.net).sum) := by
    decide +kernel
  obtain ⟨s, run, some_lost⟩ := (Option.any_eq_true ..).mp lost
  obtain ⟨a, mem, differs⟩ := List.any_eq_true.mp some_lost
  exact of_decide_eq_true differs ((always sideBySide).last run a mem).balance

end PaperAccounts

end TradeResearch.Paper
