import TradeResearch.Lib.Run
import TradeResearch.Lib.Table
import TradeResearch.Tools.Account

/-!
# The track record

`load_ledger` and `merge` of `tools/track_record.py`: each merge adds the closed trades the terminal
reports that are not on file. A line is keyed by the id of its position and never revised. The
bracket `enrich` adds to a line is left out.

* `TrackRecord` is the deals the accounts have so far, and the file; `TrackRecord.step` is a deal or
  a merge.
* `Conduct` is what each of them has to meet: a position is merged once it is finished and whole,
  and has no deal after that.
* `trackRecord_full`: on such a run every line holds the net of all deals of its position, and a
  position some merge picks has exactly one; `Flat` is when `closed_trades` may report it.
-/

namespace TradeResearch.Tools

structure LedgerRow where
  trade : ClosedTrade
  account : Option ℤ
  mergedAt : String

def LedgerRow.positionId (row : LedgerRow) : ℤ := row.trade.positionId

def loadLedger (file : List LedgerRow) : Table LedgerRow.positionId :=
  Table.ofRows LedgerRow.positionId file

def census (trades : List ClosedTrade) : List (ℤ × ℕ) :=
  ((trades.map ClosedTrade.magic).eraseDups.insertionSort (· ≤ ·)).map fun magic =>
    (magic, trades.countP fun t => decide (t.magic = magic))

def selectByMagic (trades : List ClosedTrade) : Option ℤ → List ClosedTrade
  | none => trades
  | some magic => trades.filter fun t => decide (t.magic = magic)

def dropPositions (trades : List ClosedTrade) (exclude : List String) : List ClosedTrade :=
  trades.filter fun t => decide (toString t.positionId ∉ exclude)

def addAll (account : Option ℤ) (mergedAt : String) : List LedgerRow → List ClosedTrade →
    List LedgerRow
  | file, [] => file
  | file, t :: rest =>
    addAll account mergedAt
      (if ((loadLedger file).find? t.positionId).isSome then file
      else file ++ [⟨t, account, mergedAt⟩]) rest

structure MergeReport where
  pulled : ℕ
  added : ℕ
  ledgerSize : ℕ
  magic : Option ℤ
  account : Option ℤ
  byMagic : List (ℤ × ℕ)
  excluded : ℕ
  droppedById : ℕ

def accountOf (login : ℤ) : Option ℤ := if login = 0 then none else some login

section Merge

variable (iso : ℤ → String) (rounded : ℕ → ℚ → ℚ)

def mergeable (deals : List Deal) (magic : Option ℤ) (exclude : List String) : List ClosedTrade :=
  dropPositions (selectByMagic (closedTrades iso rounded deals) magic) exclude

def merge (file : List LedgerRow) (login : ℤ) (deals : List Deal) (magic : Option ℤ)
    (exclude : List String) (now : String) : List LedgerRow × MergeReport :=
  let trades := closedTrades iso rounded deals
  let selected := selectByMagic trades magic
  let kept := mergeable iso rounded deals magic exclude
  let file' := addAll (accountOf login) now file
    (kept.insertionSort fun a b => a.closeTime ≤ b.closeTime)
  (file',
    { pulled := kept.length
      added := file'.length - file.length
      ledgerSize := (loadLedger file').rows.length
      magic
      account := accountOf login
      byMagic := census trades
      excluded := (((census trades).filter fun both =>
        magic.any fun m => decide (both.1 ≠ m)).map Prod.snd).sum
      droppedById := selected.length - kept.length })

end Merge

structure TrackRecord where
  history : ℤ → List Deal
  file : List LedgerRow

inductive RecordEvent where
  /-- The venue books a deal. -/
  | deal (login : ℤ) (d : Deal)
  /-- A merge reads the deals of a window, in any order; `none` is a terminal that cannot. -/
  | merge (login since until_ : ℤ) (read : Option (List Deal)) (magic : Option ℤ)
      (exclude : List String) (now : String)

namespace TrackRecord

def window (s : TrackRecord) (login since until_ : ℤ) : List Deal :=
  (s.history login).filter fun d => decide (since ≤ d.time ∧ d.time ≤ until_)

def dealsOf (s : TrackRecord) (login positionId : ℤ) : List Deal :=
  Tools.dealsOf (s.history login) positionId

variable (iso : ℤ → String) (rounded : ℕ → ℚ → ℚ)

def step (s : TrackRecord) : RecordEvent → Option TrackRecord
  | .deal login d =>
    some { s with history := Function.update s.history login (s.history login ++ [d]) }
  | .merge _ _ _ none _ _ _ => some s
  | .merge login since until_ (some deals) magic exclude now =>
    if deals.Perm (s.window login since until_) then
      some { s with file := (Tools.merge iso rounded s.file login deals magic exclude now).1 }
    else none

end TrackRecord

def Picked (deals : List Deal) (magic : Option ℤ) (exclude : List String) (positionId : ℤ) : Prop :=
  Paired (dealsOf deals positionId) ∧
    (∀ m ∈ magic, ((inOrder (dealsOf deals positionId)).filter Deal.opens).head?.map Deal.magic =
      some m) ∧ toString positionId ∉ exclude

def TrackRecord.OnFile (s : TrackRecord) (positionId : ℤ) : Prop :=
  positionId ∈ s.file.map LedgerRow.positionId

def TrackRecord.Conduct (s : TrackRecord) : RecordEvent → Prop
  | .deal login d => d.type < 2 → ∀ row ∈ s.file, row.positionId = d.positionId →
    row.account ≠ accountOf login
  | .merge _ _ _ none _ _ _ => True
  | .merge login since until_ (some deals) magic exclude _ =>
    ∀ positionId, Picked deals magic exclude positionId → ¬ s.OnFile positionId →
      Flat (s.dealsOf login positionId) ∧
        ∀ d ∈ s.dealsOf login positionId, since ≤ d.time ∧ d.time ≤ until_

instance (deals : List Deal) (magic : Option ℤ) (exclude : List String) (positionId : ℤ) :
    Decidable (Picked deals magic exclude positionId) := inferInstanceAs (Decidable (_ ∧ _))

theorem mem_positionIds_of_picked {deals : List Deal} {magic : Option ℤ} {exclude : List String}
    {positionId : ℤ} (picked : Picked deals magic exclude positionId) :
    positionId ∈ positionIds deals := by
  obtain ⟨⟨⟨d, mem, _⟩, _⟩, _⟩ := picked
  obtain ⟨mem, same⟩ := List.mem_filter.mp mem
  unfold positionIds
  rw [List.mem_eraseDups]
  exact List.mem_map.mpr ⟨d, mem, of_decide_eq_true same⟩

instance (s : TrackRecord) : ∀ e, Decidable (s.Conduct e)
  | .deal _ _ => inferInstanceAs (Decidable (_ → _))
  | .merge _ _ _ none _ _ _ => isTrue True.intro
  | .merge login since until_ (some deals) magic exclude _ =>
    decidable_of_iff
      (∀ positionId ∈ positionIds deals, Picked deals magic exclude positionId →
        positionId ∉ s.file.map LedgerRow.positionId → Flat (s.dealsOf login positionId) ∧
          ∀ d ∈ s.dealsOf login positionId, since ≤ d.time ∧ d.time ≤ until_)
      ⟨fun all positionId picked => all positionId (mem_positionIds_of_picked picked) picked,
        fun all positionId _ => all positionId⟩

def TrackRecord.Full (rounded : ℕ → ℚ → ℚ) (s : TrackRecord) : Prop :=
  (s.file.map LedgerRow.positionId).Nodup ∧
    ∀ row ∈ s.file, ∀ login, row.account = accountOf login →
      Flat (s.dealsOf login row.positionId) ∧
        row.trade.netProfit = rounded 2 (netOf (s.dealsOf login row.positionId))

section Loop

theorem accountOf_injective {login login' : ℤ} (same : accountOf login = accountOf login') :
    login = login' := by
  unfold accountOf at same
  split at same
  · next zero =>
    split at same
    · next zero' => rw [zero, zero']
    · cases same
  · split at same
    · cases same
    · exact Option.some.inj same

theorem loadLedger_isSome {file : List LedgerRow} {positionId : ℤ} :
    ((loadLedger file).find? positionId).isSome = true ↔
      positionId ∈ file.map LedgerRow.positionId := by
  unfold loadLedger
  rw [Table.find?_ofRows, List.find?_isSome]
  simp [List.mem_map]

theorem addAll_cons {file : List LedgerRow} {t : ClosedTrade} {rest : List ClosedTrade} :
    addAll account now file (t :: rest) =
      addAll account now
        (if t.positionId ∈ file.map LedgerRow.positionId then file
        else file ++ [⟨t, account, now⟩]) rest := by
  simp only [addAll, loadLedger_isSome]

theorem mem_addAll {file : List LedgerRow} {trades : List ClosedTrade} {row : LedgerRow}
    (mem : row ∈ addAll account now file trades) : row ∈ file ∨
      (row.trade ∈ trades ∧ row.account = account ∧
        row.positionId ∉ file.map LedgerRow.positionId) := by
  induction trades generalizing file with
  | nil => exact .inl mem
  | cons t rest ih =>
    rw [addAll_cons] at mem
    by_cases filed : t.positionId ∈ file.map LedgerRow.positionId
    · rw [if_pos filed] at mem
      rcases ih mem with old | ⟨ofRest, own, free⟩
      · exact .inl old
      · exact .inr ⟨List.mem_cons_of_mem _ ofRest, own, free⟩
    · rw [if_neg filed] at mem
      rcases ih mem with old | ⟨ofRest, own, free⟩
      · rcases List.mem_append.mp old with before | new
        · exact .inl before
        · rw [List.mem_singleton.mp new]
          exact .inr ⟨List.mem_cons_self .., rfl, filed⟩
      · rw [List.map_append, List.mem_append, not_or] at free
        exact .inr ⟨List.mem_cons_of_mem _ ofRest, own, free.1⟩

theorem mem_addAll_of_mem {file : List LedgerRow} {trades : List ClosedTrade} {row : LedgerRow}
    (mem : row ∈ file) : row ∈ addAll account now file trades := by
  induction trades generalizing file with
  | nil => exact mem
  | cons t rest ih =>
    apply ih
    split
    · exact mem
    · exact List.mem_append_left _ mem

theorem onFile_addAll {file : List LedgerRow} {trades : List ClosedTrade} {trade : ClosedTrade}
    (mem : trade ∈ trades) :
    trade.positionId ∈ (addAll account now file trades).map LedgerRow.positionId := by
  induction trades generalizing file with
  | nil => cases mem
  | cons t rest ih =>
    rcases List.mem_cons.mp mem with rfl | later
    · rw [addAll_cons]
      by_cases filed : trade.positionId ∈ file.map LedgerRow.positionId
      · rw [if_pos filed]
        obtain ⟨row, old, same⟩ := List.mem_map.mp filed
        exact List.mem_map.mpr ⟨row, mem_addAll_of_mem old, same⟩
      · rw [if_neg filed]
        have new : (⟨trade, account, now⟩ : LedgerRow) ∈ file ++ [⟨trade, account, now⟩] :=
          List.mem_append_right _ (List.mem_singleton_self _)
        exact List.mem_map.mpr ⟨_, mem_addAll_of_mem new, rfl⟩
    · rw [addAll_cons]
      exact ih later

theorem nodup_addAll {file : List LedgerRow} {trades : List ClosedTrade}
    (once : (file.map LedgerRow.positionId).Nodup) :
    ((addAll account now file trades).map LedgerRow.positionId).Nodup := by
  induction trades generalizing file with
  | nil => exact once
  | cons t rest ih =>
    rw [addAll_cons]
    apply ih
    by_cases filed : t.positionId ∈ file.map LedgerRow.positionId
    · rwa [if_pos filed]
    · rw [if_neg filed, List.map_append]
      refine List.Nodup.append once (List.nodup_singleton _) ?_
      rw [List.map_singleton, List.disjoint_singleton]
      exact filed

end Loop

section Kept

variable {iso : ℤ → String} {rounded : ℕ → ℚ → ℚ} {deals : List Deal} {magic : Option ℤ}

theorem mem_selectByMagic_iff {trades : List ClosedTrade} {trade : ClosedTrade} :
    trade ∈ selectByMagic trades magic ↔ trade ∈ trades ∧ ∀ m ∈ magic, trade.magic = m := by
  cases magic with
  | none => simp [selectByMagic]
  | some m => simp [selectByMagic, eq_comm]

theorem mem_mergeable_iff {trade : ClosedTrade} :
    trade ∈ mergeable iso rounded deals magic exclude ↔
      trade ∈ closedTrades iso rounded deals ∧ (∀ m ∈ magic, trade.magic = m) ∧
        toString trade.positionId ∉ exclude := by
  unfold mergeable dropPositions
  rw [List.mem_filter, mem_selectByMagic_iff, decide_eq_true_iff, and_assoc]

theorem picked_iff {positionId : ℤ} : Picked deals magic exclude positionId ↔
    ∃ trade ∈ mergeable iso rounded deals magic exclude, trade.positionId = positionId := by
  constructor
  · rintro ⟨paired, tagged, listed⟩
    obtain ⟨trade, made⟩ : ∃ trade, roundTrip iso rounded positionId
        (inOrder (dealsOf deals positionId)) = some trade :=
      exists_roundTrip_iff.mpr (paired_inOrder.mpr paired)
    obtain ⟨same, _, first⟩ := roundTrip_eq_some made
    have reported := mem_closedTrades_iff.mpr ⟨positionId, made⟩
    refine ⟨trade, mem_mergeable_iff.mpr ⟨reported, ?_, ?_⟩, same⟩
    · intro m asked
      rw [tagged m asked] at first
      exact (Option.some.inj first).symm
    · rwa [same]
  · rintro ⟨trade, mem, rfl⟩
    obtain ⟨reported, tagged, listed⟩ := mem_mergeable_iff.mp mem
    obtain ⟨positionId, made⟩ := mem_closedTrades_iff.mp reported
    obtain ⟨same, _, first⟩ := roundTrip_eq_some made
    rw [same] at listed ⊢
    refine ⟨paired_inOrder.mp (exists_roundTrip_iff.mp ⟨trade, made⟩), fun m asked => ?_, listed⟩
    rw [first, tagged m asked]

theorem net_of_mem_closedTrades {trade : ClosedTrade}
    (mem : trade ∈ closedTrades iso rounded deals) :
    trade.netProfit = rounded 2 (netOf (dealsOf deals trade.positionId)) := by
  obtain ⟨positionId, made⟩ := mem_closedTrades_iff.mp mem
  obtain ⟨same, net, _⟩ := roundTrip_eq_some made
  have unordered : netOf (inOrder (dealsOf deals positionId)) = netOf (dealsOf deals positionId) :=
    netOf_of_perm (List.perm_insertionSort Deal.Before _)
  rw [net, same, unordered]

end Kept

namespace TrackRecord

variable {iso : ℤ → String} {rounded : ℕ → ℚ → ℚ} {s : TrackRecord}

theorem dealsOf_deal {login login' positionId : ℤ} {d : Deal}
    (other : login = login' → d.type < 2 → d.positionId ≠ positionId) :
    dealsOf { s with history := Function.update s.history login (s.history login ++ [d]) } login'
      positionId = s.dealsOf login' positionId := by
  unfold dealsOf Tools.dealsOf trading
  dsimp only
  by_cases same : login' = login
  · subst same
    rw [Function.update_self, List.filter_append, List.filter_append, List.append_right_eq_self]
    rw [List.filter_filter, List.filter_eq_nil_iff]
    intro d' mem
    rw [List.mem_singleton.mp mem, Bool.and_eq_true, decide_eq_true_iff, decide_eq_true_iff]
    exact fun both => other rfl both.2 both.1
  · rw [Function.update_of_ne same]

theorem dealsOf_read {login since until_ positionId : ℤ} {deals : List Deal}
    (read : deals.Perm (s.window login since until_))
    (whole : ∀ d ∈ s.dealsOf login positionId, since ≤ d.time ∧ d.time ≤ until_) :
    (Tools.dealsOf deals positionId).Perm (s.dealsOf login positionId) := by
  have all : Tools.dealsOf (s.window login since until_) positionId =
      s.dealsOf login positionId := by
    unfold dealsOf Tools.dealsOf trading at whole ⊢
    unfold window
    rw [List.filter_filter, List.filter_filter, List.filter_filter]
    refine List.filter_congr fun d mem => ?_
    rw [Bool.and_eq_left_iff_imp]
    intro own
    rw [Bool.and_eq_true] at own
    exact decide_eq_true
      (whole d (List.mem_filter.mpr ⟨List.mem_filter.mpr ⟨mem, own.2⟩, own.1⟩))
  rw [← all]
  exact (read.filter _).filter _

theorem mem_file_step {e : RecordEvent} {row : LedgerRow} (mem : row ∈ s.file)
    (taken : s.step iso rounded e = some t) : row ∈ t.file := by
  cases e with
  | deal login d =>
    cases taken
    exact mem
  | merge login since until_ read magic exclude now =>
    cases read with
    | none =>
      cases taken
      exact mem
    | some deals =>
      simp only [step] at taken
      split at taken
      · cases taken
        exact mem_addAll_of_mem mem
      · cases taken

theorem whole_of_mergeable {s : TrackRecord} {login since until_ : ℤ} {deals : List Deal}
    {magic : Option ℤ}
    {exclude : List String} {now : String} {trade : ClosedTrade}
    (conduct : s.Conduct (.merge login since until_ (some deals) magic exclude now))
    (read : deals.Perm (s.window login since until_))
    (mem : trade ∈ mergeable iso rounded deals magic exclude)
    (free : ¬ s.OnFile trade.positionId) :
    Flat (s.dealsOf login trade.positionId) ∧
      trade.netProfit = rounded 2 (netOf (s.dealsOf login trade.positionId)) := by
  obtain ⟨flat, whole⟩ := conduct trade.positionId (picked_iff.mpr ⟨trade, mem, rfl⟩) free
  have net := net_of_mem_closedTrades (mem_mergeable_iff.mp mem).1
  rw [netOf_of_perm (dealsOf_read read whole)] at net
  exact ⟨flat, net⟩

theorem full_step {e : RecordEvent} (full : Full rounded s) (conduct : s.Conduct e)
    (taken : s.step iso rounded e = some t) : Full rounded t := by
  obtain ⟨once, lines⟩ := full
  cases e with
  | deal login d =>
    cases taken
    refine ⟨once, fun row mem login' own => ?_⟩
    have untouched : login = login' → d.type < 2 → d.positionId ≠ row.positionId := by
      rintro rfl trade same
      exact conduct trade row mem same.symm own
    rw [dealsOf_deal untouched]
    exact lines row mem login' own
  | merge login since until_ read magic exclude now =>
    cases read with
    | none =>
      cases taken
      exact ⟨once, lines⟩
    | some deals =>
      simp only [step] at taken
      split at taken
      · next read =>
        cases taken
        refine ⟨nodup_addAll once, fun row mem login' own => ?_⟩
        rcases mem_addAll mem with old | ⟨new, account, free⟩
        · exact lines row old login' own
        · rw [List.mem_insertionSort] at new
          have same : login' = login := accountOf_injective (own.symm.trans account)
          subst same
          exact whole_of_mergeable (s := s) conduct read new free
      · cases taken

theorem exists_of_picked {login since until_ positionId : ℤ} {deals : List Deal}
    {magic : Option ℤ} {exclude : List String} {now : String}
    (taken : s.step iso rounded (.merge login since until_ (some deals) magic exclude now) = some t)
    (picked : Picked deals magic exclude positionId)
    (own : ∀ row ∈ s.file, row.positionId = positionId → row.account = accountOf login) :
    ∃ row ∈ t.file, row.account = accountOf login ∧ row.positionId = positionId := by
  simp only [step] at taken
  split at taken
  · cases taken
    obtain ⟨trade, mem, rfl⟩ := picked_iff.mp picked
    have sorted : trade ∈ (mergeable iso rounded deals magic exclude).insertionSort
        fun a b => a.closeTime ≤ b.closeTime := (List.mem_insertionSort _).mpr mem
    obtain ⟨row, filed, same⟩ := List.mem_map.mp (onFile_addAll sorted)
    refine ⟨row, filed, ?_, same⟩
    rcases mem_addAll filed with old | ⟨_, account, _⟩
    · exact own row old same
    · exact account
  · cases taken

/-- All along a run that meets the conduct, every line is of a flat position and holds the net of
all its deals. A position that some merge of it picked, and that was on file for no other account by
then, has exactly one line at the end, of its account. And the trades of any read are of flat
positions alone exactly when every position that is paired in it is flat. -/
theorem trackRecord_full {start t u : TrackRecord} {early late : List RecordEvent}
    {login since until_ : ℤ} {deals : List Deal} {magic : Option ℤ} {exclude : List String}
    {now : String} (empty : start.file = [])
    (meets : Run.Meets (step iso rounded) Conduct start
      (early ++ .merge login since until_ (some deals) magic exclude now :: late))
    (before : Run.exec (step iso rounded) start early = some t)
    (run : Run.exec (step iso rounded) t
      (.merge login since until_ (some deals) magic exclude now :: late) = some u) :
    Run.Along (step iso rounded) (Full rounded) start
        (early ++ .merge login since until_ (some deals) magic exclude now :: late) ∧
      (∀ positionId, Picked deals magic exclude positionId →
        (∀ row ∈ t.file, row.positionId = positionId → row.account = accountOf login) →
        ∃! row, row ∈ u.file ∧ row.account = accountOf login ∧ row.positionId = positionId ∧
          Flat (u.dealsOf login positionId) ∧
          row.trade.netProfit = rounded 2 (netOf (u.dealsOf login positionId))) ∧
      ∀ read, (∀ trade ∈ closedTrades iso rounded read, Flat (Tools.dealsOf read
        trade.positionId)) ↔
        ∀ positionId, Paired (Tools.dealsOf read positionId) →
          Flat (Tools.dealsOf read positionId) := by
  have initial : Full rounded start := by
    unfold Full
    rw [empty]
    exact ⟨List.nodup_nil, fun row mem => by cases mem⟩
  have kept : ∀ s e t, Full rounded s → s.Conduct e → s.step iso rounded e = some t →
      Full rounded t := fun _ _ _ => full_step
  refine ⟨Run.along_of_meets kept initial meets, fun positionId picked own => ?_,
    fun read => closedTrades_flat_iff⟩
  have midway : Full rounded t := Run.invariant kept initial meets.start before
  obtain ⟨once, lines⟩ : Full rounded u := Run.invariant kept midway (meets.rest before) run
  obtain ⟨t', taken, rest⟩ := Run.exec_cons_eq_some.mp run
  obtain ⟨row, filed, account, same⟩ := exists_of_picked taken picked own
  have final : row ∈ u.file :=
    Run.invariant_all (fun _ _ _ => mem_file_step) filed rest
  subst same
  refine ⟨row, ⟨final, account, rfl, lines row final login account⟩, ?_⟩
  rintro row' ⟨final', _, same, _⟩
  exact List.inj_on_of_nodup_map once final' final same

private def tenth (ticket positionId : ℤ) (type : ℕ) (entry : DealEntry) (profit : ℚ) (time : ℤ) :
    Deal :=
  { ticket, positionId, type, entry, symbol := "EURUSD", volume := 1 / 10, price := 1, profit
    commission := 0, swap := 0, fee := 0, time, timeMsc := 1000 * time, reason := 0, magic := 7
    comment := "" }

private def bought : List Deal := [tenth 1 41 0 .in 0 10, tenth 2 41 0 .in 0 20]

private def soldOnce : List Deal := bought ++ [tenth 3 41 1 .out 5 30]

private def soldTwice : List Deal := soldOnce ++ [tenth 4 41 1 .out (-8) 40]

private def empty : TrackRecord := ⟨fun _ => [], []⟩

private def deals (login : ℤ) (ds : List Deal) : List RecordEvent := ds.map (.deal login)

private def mergeOf (login : ℤ) (read : List Deal) : RecordEvent :=
  .merge login 0 100 (some read) (some 7) [] "2026-09-07T00:00:00"

private def texts : ℤ → String := fun time => toString time

private def unrounded : ℕ → ℚ → ℚ := fun _ amount => amount

/-- A merge after the second sale has the whole of it. -/
theorem trackRecord_full_of_soldTwice :
    ∃ t ∈ Run.exec (step texts unrounded) empty (deals 1 soldTwice),
      ∃ u ∈ Run.exec (step texts unrounded) t
        (mergeOf 1 soldTwice :: (deals 2 bought ++ [mergeOf 2 bought, mergeOf 1 soldTwice])),
        ∃! row, row ∈ u.file ∧ row.account = some 1 ∧ row.positionId = 41 ∧
          Flat (u.dealsOf 1 41) ∧ row.trade.netProfit = -3 := by
  have runs : ∃ t ∈ Run.exec (step texts unrounded) empty (deals 1 soldTwice), t.file.length = 0 ∧
      ∃ u ∈ Run.exec (step texts unrounded) t
        (mergeOf 1 soldTwice :: (deals 2 bought ++ [mergeOf 2 bought, mergeOf 1 soldTwice])),
        netOf (u.dealsOf 1 41) = -3 := by
    decide +kernel
  obtain ⟨t, before, nothing, u, run, net⟩ := runs
  have nothing_filed : empty.file = [] := rfl
  have full := trackRecord_full nothing_filed (by decide +kernel) before run
  have once := full.2.1 41 (by decide +kernel) fun row mem => by
    rw [List.length_eq_zero_iff.mp nothing] at mem
    cases mem
  rw [net] at once
  exact ⟨t, before, u, run, once⟩

/-- One after the first keeps the net of that, whatever is read later; and it reports a position
that is not flat. -/
theorem not_forall_full :
    (¬ ∀ (events : List RecordEvent) (t u : TrackRecord) (login since until_ : ℤ) (now : String),
      Run.exec (step texts unrounded) empty events = some t →
      t.step texts unrounded
        (.merge login since until_ (some (t.history login)) none [] now) = some u →
      ∀ positionId, Paired (u.dealsOf login positionId) → Flat (u.dealsOf login positionId) →
        ∃! row, row ∈ u.file ∧ row.account = accountOf login ∧ row.positionId = positionId ∧
          row.trade.netProfit = netOf (u.dealsOf login positionId)) ∧
    ¬ ∀ read, ∀ trade ∈ closedTrades texts unrounded read,
      Flat (Tools.dealsOf read trade.positionId) := by
  constructor
  · intro whole
    have wrong : ∃ t ∈ Run.exec (step texts unrounded) empty
          (deals 1 soldOnce ++ [mergeOf 1 soldOnce, .deal 1 (tenth 4 41 1 .out (-8) 40)]),
        ∃ u ∈ t.step texts unrounded (.merge 1 0 100 (some (t.history 1)) none [] ""),
          Paired (u.dealsOf 1 41) ∧ Flat (u.dealsOf 1 41) ∧
          ∀ row ∈ u.file, row.trade.netProfit ≠ netOf (u.dealsOf 1 41) := by
      decide +kernel
    obtain ⟨t, run, u, taken, paired, flat, never⟩ := wrong
    obtain ⟨row, ⟨mem, _, _, net⟩, _⟩ := whole _ t u 1 0 100 "" run taken 41 paired flat
    exact never row mem net
  · intro flat
    have wrong : ∃ trade ∈ closedTrades texts unrounded soldOnce,
        ¬ Flat (Tools.dealsOf soldOnce trade.positionId) := by
      decide +kernel
    obtain ⟨trade, mem, standing⟩ := wrong
    exact standing (flat soldOnce trade mem)

end TrackRecord

end TradeResearch.Tools
