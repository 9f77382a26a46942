import Mathlib.Algebra.BigOperators.Group.List.Basic
import Mathlib.Algebra.Order.BigOperators.Group.List
import Mathlib.Data.List.Induction
import Mathlib.Data.List.Nodup

/-!
# Tables with a key

`Table key` is a list of rows no two of which have one key. Every way to write it keeps that:
`Table.map` rewrites rows without touching their keys, `Table.insert` adds a row under a key that
is free, `Table.erase` drops the row of a key, and `Table.put` writes a row under its key whether
that is free or not.

* `Table.eq_of_key`: a key names one row.
* `Table.forall_map_iff` and `Table.forall_insert_iff` say what a write does to a property of every
  row; `Table.forall_modify_iff` is the case of one row rewritten.
* `Table.find?` reads the row of a key; `find?_put` and `find?_erase` say what a write does to what
  is read, and `sum_put` and `sum_erase` what it does to a sum over the rows.
* `Table.ofRows` is a dictionary built from rows in order: under each key the last row stands, where
  the first one stood (`find?_ofRows`).
* `Totals` are amounts added up under their keys: `find?_collect` and `sum_collect` say what stands
  there, and `find?_collect_of_perm` that their order does not matter.
-/

namespace TradeResearch

variable {α κ : Type}

structure Table (key : α → κ) where
  rows : List α
  keys : (rows.map key).Nodup

namespace Table

variable {key : α → κ}

def empty (key : α → κ) : Table key := ⟨[], List.nodup_nil⟩

def map (t : Table key) (f : α → α) (keeps : ∀ a, key (f a) = key a) : Table key where
  rows := t.rows.map f
  keys := by
    rw [List.map_map, show key ∘ f = key from funext keeps]
    exact t.keys

def insert (t : Table key) (a : α) (free : key a ∉ t.rows.map key) : Table key where
  rows := t.rows ++ [a]
  keys := by
    rw [List.map_append, List.map_singleton, ← List.concat_eq_append]
    exact List.Nodup.concat free t.keys

def modify [DecidableEq κ] (t : Table key) (k : κ) (f : α → α) (keeps : ∀ a, key (f a) = key a) :
    Table key :=
  t.map (fun a => if key a = k then f a else a) fun a => by
    split
    · exact keeps a
    · rfl

theorem eq_of_key {t : Table key} {a b : α} (mem : a ∈ t.rows) (mem' : b ∈ t.rows)
    (same : key a = key b) : a = b :=
  List.inj_on_of_nodup_map t.keys mem mem' same

theorem mem_map {t : Table key} {f : α → α} {keeps : ∀ a, key (f a) = key a} {b : α} :
    b ∈ (t.map f keeps).rows ↔ ∃ a ∈ t.rows, f a = b :=
  List.mem_map

theorem keys_map {t : Table key} {f : α → α} {keeps : ∀ a, key (f a) = key a} :
    (t.map f keeps).rows.map key = t.rows.map key := by
  unfold map
  rw [List.map_map, show key ∘ f = key from funext keeps]

theorem mem_insert {t : Table key} {a : α} {free : key a ∉ t.rows.map key} {b : α} :
    b ∈ (t.insert a free).rows ↔ b ∈ t.rows ∨ b = a := by
  unfold insert
  rw [List.mem_append, List.mem_singleton]

section Modify

variable [DecidableEq κ] {t : Table key} {k : κ} {f : α → α}

theorem mem_modify {b : α} :
    b ∈ (t.modify k f keeps).rows ↔
      (∃ a ∈ t.rows, key a = k ∧ f a = b) ∨ (b ∈ t.rows ∧ key b ≠ k) := by
  unfold modify
  rw [mem_map]
  constructor
  · rintro ⟨a, mem, rfl⟩
    by_cases here : key a = k
    · rw [if_pos here]
      exact .inl ⟨a, mem, here, rfl⟩
    · rw [if_neg here]
      exact .inr ⟨mem, here⟩
  · rintro (⟨a, mem, here, rfl⟩ | ⟨mem, elsewhere⟩)
    · exact ⟨a, mem, if_pos here⟩
    · exact ⟨b, mem, if_neg elsewhere⟩

theorem keys_modify : (t.modify k f keeps).rows.map key = t.rows.map key := keys_map

end Modify

section Forall

variable {P : α → Prop} {t : Table key}

theorem forall_map_iff {f : α → α} {keeps : ∀ a, key (f a) = key a} :
    (∀ b ∈ (t.map f keeps).rows, P b) ↔ ∀ a ∈ t.rows, P (f a) :=
  List.forall_mem_map

theorem forall_insert_iff {a : α} {free : key a ∉ t.rows.map key} :
    (∀ b ∈ (t.insert a free).rows, P b) ↔ (∀ b ∈ t.rows, P b) ∧ P a := by
  unfold insert
  rw [List.forall_mem_append, List.forall_mem_singleton]

theorem forall_modify_iff [DecidableEq κ] {k : κ} {f : α → α} {keeps : ∀ a, key (f a) = key a}
    (held : ∀ a ∈ t.rows, P a) :
    (∀ b ∈ (t.modify k f keeps).rows, P b) ↔ ∀ a ∈ t.rows, key a = k → P (f a) := by
  constructor
  · intro after a mem here
    exact after (f a) (mem_modify.mpr (.inl ⟨a, mem, here, rfl⟩))
  · intro rewritten b mem
    rcases mem_modify.mp mem with ⟨a, mem', here, rfl⟩ | ⟨mem', _⟩
    · exact rewritten a mem' here
    · exact held b mem'

end Forall

section Find

variable [DecidableEq κ]

def find? (t : Table key) (k : κ) : Option α := t.rows.find? fun a => key a = k

def erase (t : Table key) (k : κ) : Table key where
  rows := t.rows.filter fun a => key a ≠ k
  keys := t.keys.sublist (List.filter_sublist.map key)

theorem not_mem_erase (t : Table key) (k : κ) : k ∉ (t.erase k).rows.map key := by
  intro mem
  obtain ⟨a, kept, same⟩ := List.mem_map.mp mem
  have other := (List.mem_filter.mp kept).2
  simp [same] at other

theorem mem_erase {t : Table key} {k : κ} {a : α} :
    a ∈ (t.erase k).rows ↔ a ∈ t.rows ∧ key a ≠ k := by
  unfold erase
  rw [List.mem_filter, decide_eq_true_iff]

def put (t : Table key) (a : α) : Table key := (t.erase (key a)).insert a (t.not_mem_erase (key a))

theorem mem_put {t : Table key} {a b : α} :
    b ∈ (t.put a).rows ↔ (b ∈ t.rows ∧ key b ≠ key a) ∨ b = a := by
  unfold put
  rw [mem_insert, mem_erase]

variable {t : Table key} {a : α}

theorem key_of_find? (found : t.find? k = some a) : key a = k := by
  have held := List.find?_some found
  simpa using held

theorem find?_erase (t : Table key) (k k' : κ) :
    (t.erase k).find? k' = if k' = k then none else t.find? k' := by
  unfold find? erase
  rw [List.find?_filter]
  split
  · next same =>
    simp [same]
  · next other =>
    congr 1
    funext a
    by_cases here : key a = k'
    · simp [here, other]
    · simp [here]

theorem find?_put (t : Table key) (a : α) (k : κ) :
    (t.put a).find? k = if k = key a then some a else t.find? k := by
  have erased := t.find?_erase (key a) k
  unfold put
  unfold find? at erased ⊢
  unfold insert
  rw [List.find?_append, erased]
  split
  · next same => simp [same]
  · next other =>
    have miss : [a].find? (fun b => decide (key b = k)) = none := by
      simp [show ¬ key a = k from fun same => other same.symm]
    rw [miss, Option.or_none]

def filter (t : Table key) (keep : α → Bool) : Table key where
  rows := t.rows.filter keep
  keys := t.keys.sublist (List.filter_sublist.map key)

omit [DecidableEq κ] in
theorem mem_filter {keep : α → Bool} : a ∈ (t.filter keep).rows ↔ a ∈ t.rows ∧ keep a = true :=
  List.mem_filter

def sum {M : Type} [AddCommMonoid M] (t : Table key) (f : α → M) : M := (t.rows.map f).sum

section Sum

variable {M : Type} [AddCommMonoid M] (f : α → M)

theorem sum_erase (t : Table key) (k : κ) :
    (t.erase k).sum f + ((t.find? k).map f).getD 0 = t.sum f := by
  obtain ⟨rows, keys⟩ := t
  unfold sum erase find?
  dsimp only
  induction rows with
  | nil => simp
  | cons a rows ih =>
    rw [List.map_cons, List.nodup_cons] at keys
    have rest := ih keys.2
    by_cases here : key a = k
    · have gone : k ∉ rows.map key := here ▸ keys.1
      have free : rows.find? (fun b => decide (key b = k)) = none := by
        rw [List.find?_eq_none]
        intro b mem
        have other : key b ≠ k := fun same => gone (same ▸ List.mem_map_of_mem mem)
        simpa using other
      rw [free] at rest
      rw [List.filter_cons_of_neg (by simp [here]), List.find?_cons_of_pos (by simp [here]),
        List.map_cons, List.sum_cons, ← rest]
      simp [add_comm]
    · rw [List.filter_cons_of_pos (by simp [here]), List.find?_cons_of_neg (by simp [here]),
        List.map_cons, List.map_cons, List.sum_cons, List.sum_cons, ← rest, add_assoc]

theorem sum_put (t : Table key) (a : α) :
    (t.put a).sum f + ((t.find? (key a)).map f).getD 0 = t.sum f + f a := by
  have erased := t.sum_erase f (key a)
  have written : (t.put a).sum f = (t.erase (key a)).sum f + f a := by
    unfold put sum insert
    rw [List.map_append, List.sum_append, List.map_singleton, List.sum_singleton]
  rw [written, add_right_comm, erased]

end Sum

theorem find?_of_mem {t : Table key} {a : α} (mem : a ∈ t.rows) : t.find? (key a) = some a := by
  cases found : t.find? (key a) with
  | none =>
    have missed := List.find?_eq_none.mp found a mem
    simp at missed
  | some b =>
    have held : b ∈ t.rows := List.mem_of_find?_eq_some found
    rw [eq_of_key mem held (key_of_find? found).symm]

theorem mem_rows_iff {t : Table key} {a : α} : a ∈ t.rows ↔ t.find? (key a) = some a :=
  ⟨find?_of_mem, List.mem_of_find?_eq_some⟩

theorem find?_filter (t : Table key) (keep : α → Bool) (k : κ) :
    (t.filter keep).find? k = (t.find? k).filter keep := by
  refine Option.ext fun a => ?_
  rw [Option.filter_eq_some_iff]
  constructor
  · intro found
    obtain ⟨mem, kept⟩ := mem_filter.mp (List.mem_of_find?_eq_some found)
    exact ⟨key_of_find? found ▸ find?_of_mem mem, kept⟩
  · intro ⟨found, kept⟩
    have mem : a ∈ (t.filter keep).rows := mem_filter.mpr ⟨List.mem_of_find?_eq_some found, kept⟩
    exact key_of_find? found ▸ find?_of_mem mem

def write (t : Table key) (a : α) : Table key :=
  if free : key a ∉ t.rows.map key then t.insert a free
  else t.map (fun b => if key b = key a then a else b) fun b => by
    split
    · next same => exact same.symm
    · rfl

theorem find?_write (t : Table key) (a : α) (k : κ) :
    (t.write a).find? k = if k = key a then some a else t.find? k := by
  unfold write
  split
  · next free =>
    unfold find? insert
    rw [List.find?_append]
    split
    · next same =>
      have missed : t.rows.find? (fun b => decide (key b = k)) = none := by
        rw [List.find?_eq_none]
        intro b mem
        have other : key b ≠ k := fun here => free (same ▸ here ▸ List.mem_map_of_mem mem)
        simpa using other
      rw [missed, Option.none_or]
      simp [same]
    · next other =>
      have missed : [a].find? (fun b => decide (key b = k)) = none := by
        simp [show ¬ key a = k from fun same => other same.symm]
      rw [missed, Option.or_none]
  · next held =>
    obtain ⟨c, mem, there⟩ := List.mem_map.mp (not_not.mp held)
    have kept : ∀ b, key (if key b = key a then a else b) = key b := by
      intro b
      split
      · next same => exact same.symm
      · rfl
    unfold find? map
    rw [List.find?_map]
    have same : ((fun b => decide (key b = k)) ∘ fun b => if key b = key a then a else b) =
        fun b => decide (key b = k) := by
      funext b
      rw [Function.comp_apply, kept]
    rw [same]
    cases found : t.rows.find? fun b => decide (key b = k) with
    | none =>
      split
      · next here =>
        have missed := List.find?_eq_none.mp found c mem
        rw [there, here] at missed
        simp at missed
      · rfl
    | some b =>
      have here : key b = k := by simpa using List.find?_some found
      rw [Option.map_some, here]
      split
      · rfl
      · rfl

theorem mem_write {t : Table key} {a b : α} :
    b ∈ (t.write a).rows ↔ (b ∈ t.rows ∧ key b ≠ key a) ∨ b = a := by
  rw [mem_rows_iff, find?_write]
  split
  · next same =>
    rw [Option.some_inj]
    exact ⟨fun is => .inr is.symm, fun either => (either.resolve_left fun h => h.2 same).symm⟩
  · next other =>
    rw [← mem_rows_iff]
    exact ⟨fun mem => .inl ⟨mem, other⟩,
      fun either => (either.resolve_right fun is => other (congrArg key is)).1⟩

theorem length_write_of_free {t : Table key} {a : α} (free : key a ∉ t.rows.map key) :
    (t.write a).rows.length = t.rows.length + 1 := by
  rw [write, dif_pos free]
  exact List.length_append

theorem sum_write {M : Type} [AddCommMonoid M] (f : α → M) (t : Table key) (a : α) :
    (t.write a).sum f + ((t.find? (key a)).map f).getD 0 = t.sum f + f a := by
  unfold write
  split
  · next free =>
    have missed : t.find? (key a) = none := by
      refine List.find?_eq_none.mpr fun b mem => ?_
      have other : key b ≠ key a := fun same => free (same ▸ List.mem_map_of_mem mem)
      simpa using other
    rw [missed]
    unfold insert sum
    rw [List.map_append, List.sum_append, List.map_singleton, List.sum_singleton]
    exact add_zero _
  · next held =>
    obtain ⟨rows, keys⟩ := t
    unfold sum map find?
    dsimp only
    replace held : key a ∈ rows.map key := not_not.mp held
    induction rows with
    | nil => cases held
    | cons b rows ih =>
      rw [List.map_cons, List.nodup_cons] at keys
      rw [List.map_cons, List.map_cons, List.sum_cons, List.map_cons, List.sum_cons]
      by_cases here : key b = key a
      · have rest : (rows.map fun b => if key b = key a then a else b) = rows.map id := by
          refine List.map_congr_left fun c mem => if_neg fun same => keys.1 ?_
          rw [here, ← same]
          exact List.mem_map_of_mem mem
        rw [if_pos here, rest, List.map_id, List.find?_cons_of_pos (by simp [here]),
          Option.map_some, Option.getD_some, add_comm, add_comm (f a), add_assoc]
      · have later : key a ∈ rows.map key :=
          (List.mem_cons.mp held).resolve_left fun same => here same.symm
        rw [if_neg here, List.find?_cons_of_neg (by simp [here]), add_assoc, ih keys.2 later,
          add_assoc]

def ofRows (key : α → κ) (rows : List α) : Table key := rows.foldl write (empty key)

theorem find?_ofRows (rows : List α) (k : κ) :
    (ofRows key rows).find? k = rows.reverse.find? fun a => key a = k := by
  induction rows using List.reverseRecOn with
  | nil => rfl
  | append_singleton rows a ih =>
    have last : ofRows key (rows ++ [a]) = (ofRows key rows).write a := List.foldl_concat ..
    rw [last, find?_write, ih, List.reverse_append, List.reverse_singleton, List.singleton_append]
    split
    · next same => rw [List.find?_cons_of_pos (by simp [same])]
    · next other => rw [List.find?_cons_of_neg (by simpa using fun same => other same.symm)]

theorem rows_ofRows_of_nodup {rows : List α} (once : (rows.map key).Nodup) :
    (ofRows key rows).rows = rows := by
  induction rows using List.reverseRecOn with
  | nil => rfl
  | append_singleton rows a ih =>
    have last : ofRows key (rows ++ [a]) = (ofRows key rows).write a := List.foldl_concat ..
    rw [List.map_append, List.nodup_append] at once
    obtain ⟨before, -, apart⟩ := once
    have same := ih before
    have free : key a ∉ (ofRows key rows).rows.map key := by
      rw [same]
      exact fun mem => apart _ mem _ (List.mem_singleton_self _) rfl
    rw [last, write, dif_pos free]
    exact congrArg (· ++ [a]) same

theorem mem_of_find?_ofRows {rows : List α} {k : κ} {a : α}
    (found : (ofRows key rows).find? k = some a) : a ∈ rows := by
  rw [find?_ofRows] at found
  exact List.mem_reverse.mp (List.mem_of_find?_eq_some found)

theorem find?_ofRows_of_nodup {rows : List α} {a : α} (once : (rows.map key).Nodup)
    (mem : a ∈ rows) : (ofRows key rows).find? (key a) = some a := by
  cases found : (ofRows key rows).find? (key a) with
  | none =>
    rw [find?_ofRows, List.find?_eq_none] at found
    have missed := found a (List.mem_reverse.mpr mem)
    simp at missed
  | some b =>
    have same := List.inj_on_of_nodup_map once (mem_of_find?_ofRows found) mem (key_of_find? found)
    rw [same]

end Find

end Table

end TradeResearch

namespace TradeResearch

abbrev Totals (κ M : Type) := Table (Prod.fst : κ × M → κ)

theorem sum_map_getD {α M : Type} [AddMonoid M] (f : α → Option M) (xs : List α) :
    (xs.map fun x => (f x).getD 0).sum = (xs.filterMap f).sum := by
  induction xs with
  | nil => rfl
  | cons x xs ih =>
    rw [List.map_cons, List.sum_cons, ih]
    cases is : f x with
    | none =>
      rw [List.filterMap_cons_none is]
      exact zero_add _
    | some value =>
      rw [List.filterMap_cons_some is, List.sum_cons]
      rfl

namespace Totals

variable {κ M N : Type} [DecidableEq κ]

def get (t : Totals κ M) (k : κ) (start : M) : M := ((t.find? k).map Prod.snd).getD start

def update (t : Totals κ M) (k : κ) (start : M) (f : M → M) : Totals κ M :=
  t.write (k, f (t.get k start))

theorem find?_update (t : Totals κ M) (k : κ) (start : M) (f : M → M) (k' : κ) :
    (t.update k start f).find? k' =
      if k' = k then some (k, f (t.get k start)) else t.find? k' :=
  t.find?_write _ k'

variable [AddCommMonoid M] [AddCommMonoid N]

def collect (xs : List (κ × M)) : Totals κ M :=
  xs.foldl (fun t x => t.update x.1 0 (· + x.2)) (Table.empty Prod.fst)

variable {xs : List (κ × M)}

theorem collect_append_singleton :
    collect (xs ++ [x]) = (collect xs).update x.1 0 (· + x.2) := by
  unfold collect
  rw [List.foldl_append]
  rfl

def amount (xs : List (κ × M)) (k : κ) : M := ((xs.filter fun x => x.1 = k).map Prod.snd).sum

theorem amount_append (xs ys : List (κ × M)) (k : κ) :
    amount (xs ++ ys) k = amount xs k + amount ys k := by
  unfold amount
  rw [List.filter_append, List.map_append, List.sum_append]

theorem amount_singleton (x : κ × M) (k : κ) : amount [x] k = if x.1 = k then x.2 else 0 := by
  unfold amount
  by_cases same : x.1 = k
  · rw [if_pos same, List.filter_singleton, decide_eq_true same]
    exact List.sum_singleton
  · rw [if_neg same, List.filter_singleton, decide_eq_false same]
    rfl

theorem amount_of_not_mem (absent : k ∉ xs.map Prod.fst) : amount xs k = 0 := by
  unfold amount
  have none_ : (xs.filter fun x => x.1 = k) = [] :=
    List.filter_eq_nil_iff.mpr fun x mem same =>
      absent (List.mem_map.mpr ⟨x, mem, of_decide_eq_true same⟩)
  rw [none_]
  rfl

theorem find?_collect (xs : List (κ × M)) (k : κ) :
    (collect xs).find? k = if k ∈ xs.map Prod.fst then some (k, amount xs k) else none := by
  induction xs using List.reverseRecOn with
  | nil => rfl
  | append_singleton xs x ih =>
    rw [collect_append_singleton, find?_update, List.map_append, List.map_singleton,
      amount_append, amount_singleton]
    by_cases same : k = x.1
    · have sum : get (collect xs) x.1 0 = amount xs k := by
        unfold get
        rw [← same, ih]
        by_cases here : k ∈ xs.map Prod.fst
        · rw [if_pos here]
          rfl
        · rw [if_neg here, amount_of_not_mem here]
          rfl
      rw [if_pos same, sum, if_pos same.symm, if_pos (List.mem_append_right _ (by simp [same])),
        same]
    · have iff : k ∈ xs.map Prod.fst ++ [x.1] ↔ k ∈ xs.map Prod.fst := by
        simp [same]
      rw [if_neg same, ih, if_neg (show ¬ x.1 = k from fun here => same here.symm), add_zero]
      simp only [iff]

theorem get_collect (xs : List (κ × M)) (k : κ) : (collect xs).get k 0 = amount xs k := by
  unfold get
  rw [find?_collect]
  by_cases here : k ∈ xs.map Prod.fst
  · rw [if_pos here]
    rfl
  · rw [if_neg here, amount_of_not_mem here]
    rfl

theorem find?_collect_of_perm (perm : xs.Perm ys) (k : κ) :
    (collect xs).find? k = (collect ys).find? k := by
  have sum : amount xs k = amount ys k := ((perm.filter _).map _).sum_eq
  rw [find?_collect, find?_collect, sum]
  simp only [(perm.map Prod.fst).mem_iff]

theorem sum_collect [IsCancelAdd N] (f : M →+ N) (xs : List (κ × M)) :
    (collect xs).sum (fun r => f r.2) = (xs.map fun x => f x.2).sum := by
  induction xs using List.reverseRecOn with
  | nil => rfl
  | append_singleton xs x ih =>
    have written := Table.sum_write (fun r : κ × M => f r.2) (collect xs)
      (x.1, (collect xs).get x.1 0 + x.2)
    have before : (((collect xs).find? x.1).map fun r => f r.2).getD 0 =
        f ((collect xs).get x.1 0) := by
      unfold get
      cases (collect xs).find? x.1 with
      | none => exact (map_zero f).symm
      | some r => rfl
    rw [before, map_add, ih, add_comm (f _) (f x.2), ← add_assoc] at written
    rw [collect_append_singleton, List.map_append, List.sum_append, List.map_singleton,
      List.sum_singleton]
    exact add_right_cancel written

end Totals

end TradeResearch
