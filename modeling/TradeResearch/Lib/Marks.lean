import Mathlib.Data.List.Infix
import Mathlib.Data.Set.Basic

/-!
# Parts of a text, and the marks between them

A text made of parts with a mark after each but the last, where a mark is any word of a language of
its own. Whether the parts can be told from the text depends on what the parts hold.

* `Marks L`: no word of `L` starts inside another, or is the start of another.
* `Clear`: no mark of a kind in the part before it or in the part after it.
* `eq_of_clear`, `exists_other_of_not_clear`: a text has one reading exactly where its parts are
  clear.
* `marks_words`: the marks that are fields with a bar before each.
-/

namespace TradeResearch

structure Marks (L : Set (List α)) : Prop where
  ne_nil : ∀ s ∈ L, s ≠ []
  apart : ∀ s ∈ L, ∀ t ∈ L, ∀ u v a b : List α, s = u ++ v → u ≠ [] → v ≠ [] → v ++ a ≠ t ++ b
  prefixFree : ∀ s ∈ L, ∀ t ∈ L, ∀ a b : List α, s ++ a = t ++ b → s = t

namespace Marks

def written (x : List α) : List (List α × List α) → List α
  | [] => x
  | p :: ps => x ++ (p.1 ++ written p.2 ps)

def Marked (Ls : List (Set (List α))) (ps : List (List α × List α)) : Prop :=
  List.Forall₂ (fun L p => p.1 ∈ L) Ls ps

def Clear : List (Set (List α)) → List α → List (List α × List α) → Prop
  | L :: Ls, x, p :: ps => (∀ t ∈ L, ¬ t <:+: x ∧ ¬ t <:+: p.2) ∧ Clear Ls p.2 ps
  | _, _, _ => True

theorem written_append (u x : List α) (ps : List (List α × List α)) :
    written (u ++ x) ps = u ++ written x ps := by
  cases ps with
  | nil => rfl
  | cons p ps => exact List.append_assoc u x _

variable {L : Set (List α)}

theorem after_or_same (marks : Marks L) {s t w W W' : List α} (mem : s ∈ L) (mem' : t ∈ L)
    (same : s ++ W = w ++ (t ++ W')) (later : w ≠ []) : ∃ z, w = s ++ z ∧ W = z ++ (t ++ W') := by
  rcases List.append_eq_append_iff.mp same with ⟨z, is, rest⟩ | ⟨v, is, rest⟩
  · exact ⟨z, is, rest⟩
  · by_cases none_ : v = []
    · subst none_
      exact ⟨[], by rw [is, List.append_nil, List.append_nil], rest.symm⟩
    · exact absurd rest.symm (marks.apart s mem t mem' w v W W' is later none_)

theorem not_shifted (all : ∀ M ∈ Ls, Marks M) {x y z t : List α}
    {ps qs : List (List α × List α)} (mem : t ∈ L) (free : ∀ t ∈ L, ¬ t <:+: x)
    (clear : Clear Ls x ps) (marked : Marked Ls ps) (marked' : Marked Ls qs) :
    written x ps ≠ z ++ (t ++ written y qs) := by
  induction marked generalizing L x y z t qs with
  | nil =>
    cases marked'
    intro same
    exact free t mem ⟨z, y, (List.append_assoc _ _ _).trans same.symm⟩
  | @cons M p Ms ps isMark marked ih =>
    cases marked' with
    | @cons _ q _ qs isMark' marked' =>
      intro same
      obtain ⟨clear, clears⟩ := clear
      have same : x ++ (p.1 ++ written p.2 ps) = (z ++ (t ++ y)) ++ (q.1 ++ written q.2 qs) := by
        refine same.trans ?_
        simp [written]
      rcases List.append_eq_append_iff.mp same with ⟨w, is, rest⟩ | ⟨w, is, -⟩
      · by_cases none_ : w = []
        · rw [none_, List.append_nil] at is
          exact free t mem ⟨z, y, by rw [← is, List.append_assoc]⟩
        · obtain ⟨z', -, rest⟩ := after_or_same (all M List.mem_cons_self) isMark isMark' rest none_
          exact ih (fun N mem => all N (List.mem_cons_of_mem M mem)) isMark'
            (fun t mem => (clear t mem).2) clears marked' rest
      · exact free t mem ⟨z, y ++ w, by rw [is]; simp⟩

theorem eq_of_clear (all : ∀ M ∈ Ls, Marks M) {x y : List α} {ps qs : List (List α × List α)}
    (clear : Clear Ls x ps) (marked : Marked Ls ps) (marked' : Marked Ls qs)
    (same : written x ps = written y qs) : x = y ∧ ps = qs := by
  induction marked generalizing x y qs with
  | nil =>
    cases marked'
    exact ⟨same, rfl⟩
  | @cons M p Ms ps isMark marked ih =>
    cases marked' with
    | @cons _ q _ qs isMark' marked' =>
      obtain ⟨clear, clears⟩ := clear
      have marks := all M List.mem_cons_self
      have others : ∀ N ∈ Ms, Marks N := fun N mem => all N (List.mem_cons_of_mem M mem)
      have together (at_ : x = y) : x = y ∧ p :: ps = q :: qs := by
        rw [at_] at same
        have rest := List.append_cancel_left same
        have mark := marks.prefixFree _ isMark _ isMark' _ _ rest
        rw [mark] at rest
        obtain ⟨part, parts⟩ := ih others clears marked' (List.append_cancel_left rest)
        exact ⟨at_, by rw [parts, Prod.ext mark part]⟩
      rcases List.append_eq_append_iff.mp same with ⟨w, is, rest⟩ | ⟨w, is, rest⟩
      · by_cases none_ : w = []
        · rw [none_, List.append_nil] at is
          exact together is.symm
        · obtain ⟨z, -, rest⟩ := after_or_same marks isMark isMark' rest none_
          exact absurd rest
            (not_shifted others isMark' (fun t mem => (clear t mem).2) clears marked marked')
      · by_cases none_ : w = []
        · rw [none_, List.append_nil] at is
          exact together is
        · obtain ⟨z, here, -⟩ := after_or_same marks isMark' isMark rest none_
          exact absurd ⟨y, z, by rw [is, here]; simp⟩ (clear q.1 isMark').1

theorem exists_other_of_not_clear (all : ∀ M ∈ Ls, Marks M) {x : List α}
    {ps : List (List α × List α)} (marked : Marked Ls ps) (unclear : ¬ Clear Ls x ps) :
    ∃ y qs, Marked Ls qs ∧ written y qs = written x ps ∧
      (y ≠ x ∨ qs.map Prod.snd ≠ ps.map Prod.snd) := by
  induction marked generalizing x with
  | nil => exact absurd trivial unclear
  | @cons M p Ms ps isMark marked ih =>
    have marks := all M List.mem_cons_self
    by_cases clear : Clear Ms p.2 ps
    · have held : ¬ ∀ t ∈ M, ¬ t <:+: x ∧ ¬ t <:+: p.2 := fun free => unclear ⟨free, clear⟩
      push Not at held
      obtain ⟨t, mem, inside⟩ := held
      by_cases before : t <:+: x
      · obtain ⟨a, b, rfl⟩ := before
        refine ⟨a, (t, b ++ (p.1 ++ p.2)) :: ps, .cons mem marked, ?_, .inl fun same => ?_⟩
        · simp only [written, written_append, List.append_assoc]
        · have length := congrArg List.length same
          have some_ := List.length_pos_of_ne_nil (marks.ne_nil t mem)
          simp only [List.length_append] at length
          omega
      · obtain ⟨a, b, is⟩ := inside before
        refine ⟨x ++ (p.1 ++ a), (t, b) :: ps, .cons mem marked, ?_, .inl fun same => ?_⟩
        · simp only [written, ← is, written_append, List.append_assoc]
        · have length := congrArg List.length same
          have some_ := List.length_pos_of_ne_nil (marks.ne_nil p.1 isMark)
          simp only [List.length_append] at length
          omega
    · obtain ⟨y, qs, marked', same, other⟩ :=
        ih (fun N mem => all N (List.mem_cons_of_mem M mem)) clear
      refine ⟨x, (p.1, y) :: qs, .cons isMark marked', ?_, .inr fun parts => ?_⟩
      · simp only [written, same]
      · obtain ⟨head, tail⟩ := List.cons.inj parts
        exact other.elim (fun ne => ne head) fun ne => ne tail

def barred (bar : α) : List (List α) → List α → List α
  | [], last => bar :: last
  | g :: gs, last => bar :: (g ++ barred bar gs last)

theorem barred_eq_cons (bar : α) (gs : List (List α)) (last : List α) :
    ∃ rest, barred bar gs last = bar :: rest := by
  cases gs with
  | nil => exact ⟨last, rfl⟩
  | cons g gs => exact ⟨g ++ barred bar gs last, rfl⟩

theorem eq_of_bar {bar : α} {g h x y : List α} (free : bar ∉ g) (free' : bar ∉ h)
    (same : g ++ bar :: x = h ++ bar :: y) : g = h ∧ x = y := by
  rcases List.append_eq_append_iff.mp same with ⟨w, is, rest⟩ | ⟨w, is, rest⟩
  · cases w with
    | nil => exact ⟨by rw [is, List.append_nil], (List.cons.inj rest).2⟩
    | cons c w =>
      rw [is, ← (List.cons.inj rest).1] at free'
      simp at free'
  · cases w with
    | nil => exact ⟨by rw [is, List.append_nil], (List.cons.inj rest).2.symm⟩
    | cons c w =>
      rw [is, ← (List.cons.inj rest).1] at free
      simp at free

def Other (bar k : α) (g : List α) : Prop := bar ∉ g ∧ ∃ c rest, g = c :: rest ∧ c ≠ k

theorem inner_bar {bar k : α} {last : List α} (ends : bar ∉ last) {gs : List (List α)}
    (free : ∀ g ∈ gs, bar ∉ g) (others : ∀ g ∈ gs.tail, Other bar k g)
    (last' : gs ≠ [] → Other bar k last) {u v : List α} (is : barred bar gs last = u ++ bar :: v)
    (inside : u ≠ []) : ∃ c rest, v = c :: rest ∧ c ≠ k := by
  induction gs generalizing u v with
  | nil =>
    cases u with
    | nil => exact absurd rfl inside
    | cons d u =>
      rw [(List.cons.inj is).2] at ends
      simp at ends
  | cons g gs ih =>
    cases u with
    | nil => exact absurd rfl inside
    | cons d u =>
      have split : g ++ barred bar gs last = u ++ bar :: v := (List.cons.inj is).2
      -- The bar is that of the next field, or lies further on.
      have next {w : List α} (at_ : barred bar gs last = w ++ bar :: v) :
          ∃ c rest, v = c :: rest ∧ c ≠ k := by
        by_cases here : w = []
        · subst here
          cases gs with
          | nil =>
            obtain ⟨-, c, rest, starts, ne⟩ := last' (List.cons_ne_nil g [])
            exact ⟨c, rest, (List.cons.inj at_).2.symm.trans starts, ne⟩
          | cons h hs =>
            obtain ⟨-, c, rest, starts, ne⟩ := others h List.mem_cons_self
            refine ⟨c, rest ++ barred bar hs last, (List.cons.inj at_).2.symm.trans ?_, ne⟩
            rw [starts]
            rfl
        · exact ih (fun g mem => free g (List.mem_cons_of_mem _ mem))
            (fun g mem => others g (List.mem_of_mem_tail mem))
            (fun _ => last' (List.cons_ne_nil _ _)) at_ here
      rcases List.append_eq_append_iff.mp split with ⟨w, -, rest⟩ | ⟨w, is, rest⟩
      · exact next rest
      · cases w with
        | nil => exact next (w := []) rest.symm
        | cons c w =>
          have barFree := free g List.mem_cons_self
          rw [is, ← (List.cons.inj rest).1] at barFree
          simp at barFree

structure Fields (bar k : α) (S : Set (List (List α))) (last : List α) : Prop where
  free : ∀ gs ∈ S, ∀ g ∈ gs, bar ∉ g
  starts : ∀ gs ∈ S, ∃ rest, barred bar gs last = bar :: k :: rest
  others : ∀ gs ∈ S, ∀ g ∈ gs.tail, Other bar k g
  last_free : bar ∉ last
  last_other : ∀ gs ∈ S, gs ≠ [] → Other bar k last
  length : ∀ gs ∈ S, ∀ hs ∈ S, gs.length = hs.length

def words (bar : α) (S : Set (List (List α))) (last : List α) : Set (List α) :=
  {s | ∃ gs ∈ S, s = barred bar gs last}

theorem barred_inj {bar : α} {last a b : List α} {gs hs : List (List α)}
    (length : gs.length = hs.length) (free : ∀ g ∈ gs, bar ∉ g) (free' : ∀ g ∈ hs, bar ∉ g)
    (same : barred bar gs last ++ a = barred bar hs last ++ b) : gs = hs := by
  induction gs generalizing hs with
  | nil => exact (List.length_eq_zero_iff.mp length.symm).symm
  | cons g gs ih =>
    cases hs with
    | nil => cases length
    | cons h hs =>
      have split : g ++ (barred bar gs last ++ a) = h ++ (barred bar hs last ++ b) := by
        rw [← List.append_assoc, ← List.append_assoc]
        exact (List.cons.inj same).2
      obtain ⟨rest, is⟩ := barred_eq_cons bar gs last
      obtain ⟨rest', is'⟩ := barred_eq_cons bar hs last
      have barred_ : g ++ bar :: (rest ++ a) = h ++ bar :: (rest' ++ b) := by
        rw [is, is'] at split
        exact split
      have head := (eq_of_bar (free g List.mem_cons_self) (free' h List.mem_cons_self) barred_).1
      rw [head] at split ⊢
      rw [ih (Nat.succ.inj length) (fun g mem => free g (List.mem_cons_of_mem _ mem))
        (fun g mem => free' g (List.mem_cons_of_mem _ mem)) (List.append_cancel_left split)]

theorem marks_words {bar k : α} {S : Set (List (List α))} {last : List α}
    (fields : Fields bar k S last) : Marks (words bar S last) where
  ne_nil := by
    rintro _ ⟨gs, mem, rfl⟩
    obtain ⟨rest, is⟩ := fields.starts gs mem
    rw [is]
    exact List.cons_ne_nil _ _
  apart := by
    rintro _ ⟨gs, mem, rfl⟩ _ ⟨hs, mem', rfl⟩ u v a b is inside some_ same
    obtain ⟨rest, starts⟩ := fields.starts hs mem'
    rw [starts] at same
    obtain ⟨c, v, rfl⟩ := List.exists_cons_of_ne_nil some_
    obtain ⟨rfl, follows⟩ := List.cons.inj same
    obtain ⟨d, v', rfl, ne⟩ := inner_bar fields.last_free (fields.free gs mem)
      (fields.others gs mem) (fields.last_other gs mem) is inside
    exact ne (List.cons.inj follows).1
  prefixFree := by
    rintro _ ⟨gs, mem, rfl⟩ _ ⟨hs, mem', rfl⟩ a b same
    rw [barred_inj (fields.length gs mem hs mem') (fields.free gs mem) (fields.free hs mem') same]

theorem not_infix_of_free {bar : α} {S : Set (List (List α))} {last x : List α} (free : bar ∉ x) :
    ∀ t ∈ words bar S last, ¬ t <:+: x := by
  rintro _ ⟨gs, -, rfl⟩ inside
  obtain ⟨rest, is⟩ := barred_eq_cons bar gs last
  refine free (inside.subset ?_)
  rw [is]
  exact List.mem_cons_self

end Marks

end TradeResearch
