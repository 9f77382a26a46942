import Mathlib.Data.List.DropRight
import Mathlib.Data.List.Infix

/-!
# Texts as lists

Every occurrence of a word, from the left and without overlap, is replaced by a mark; a text is
trimmed at both ends; and it is matched against the patterns of SQL's `LIKE`, in which one character
stands for any text, one for any character, and one takes the character after it for what it is.

* `not_infix_replaceAll`: what comes out does not have the word, where the mark is shorter than the
  word apart from its two ends and these are not in the word.
* `trim`: what is cut off at both ends.
* `like_literal`: a pattern without any of the three characters matches itself.
* `like_any_literal`: after the first of them, it matches what it is a suffix of.
-/

namespace TradeResearch

variable {α : Type}

def trim (blank : α → Bool) (text : List α) : List α :=
  ((text.dropWhile blank).reverse.dropWhile blank).reverse

theorem trim_inside (blank : α → Bool) (text : List α) : trim blank text <:+: text := by
  have front : text.dropWhile blank <:+ text := List.dropWhile_suffix blank
  have back : (text.dropWhile blank).reverse.dropWhile blank <:+ (text.dropWhile blank).reverse :=
    List.dropWhile_suffix blank
  have kept := List.reverse_prefix.mpr back
  rw [List.reverse_reverse] at kept
  exact kept.isInfix.trans front.isInfix

theorem dropWhile_of_begins {blank : α → Bool} {text part : List α}
    (front : part <+: text.dropWhile blank) : part.dropWhile blank = part := by
  refine List.dropWhile_eq_self_iff.mpr fun some_ => ?_
  obtain ⟨rest, is⟩ := front
  have clear := List.dropWhile_eq_self_iff.mp (List.dropWhile_idempotent blank text)
  rw [← is] at clear
  have first := clear (by rw [List.length_append]; omega)
  rwa [List.getElem_append_left some_] at first

theorem trim_trim (blank : α → Bool) (text : List α) :
    trim blank (trim blank text) = trim blank text := by
  have back : (text.dropWhile blank).reverse.dropWhile blank <:+ (text.dropWhile blank).reverse :=
    List.dropWhile_suffix blank
  have front := List.reverse_prefix.mpr back
  rw [List.reverse_reverse] at front
  unfold trim
  rw [dropWhile_of_begins front, List.reverse_reverse, List.dropWhile_idempotent]

variable [DecidableEq α]

def replaceFrom (word mark : List α) : ℕ → List α → List α
  | _, [] => []
  | skip + 1, _ :: rest => replaceFrom word mark skip rest
  | 0, c :: rest =>
    if word <+: c :: rest then mark ++ replaceFrom word mark (word.length - 1) rest
    else c :: replaceFrom word mark 0 rest

def replaceAll (word mark text : List α) : List α := replaceFrom word mark 0 text

section

variable {word : List α} {opening closing : α}

theorem prefix_of_prefix_replaceAll (begins : List α) (text : List α) (unopened : opening ∉ begins)
    (starts : begins <+: replaceAll word (opening :: middle ++ [closing]) text) :
    begins <+: text := by
  induction text generalizing begins with
  | nil => exact starts
  | cons c rest ih =>
    cases begins with
    | nil => exact List.nil_prefix
    | cons a begins =>
      unfold replaceAll replaceFrom at starts
      split_ifs at starts with found
      · rw [List.append_assoc, List.cons_append, List.cons_prefix_cons] at starts
        exact absurd (starts.1 ▸ List.mem_cons_self) unopened
      · rw [List.cons_prefix_cons] at starts ⊢
        exact ⟨starts.1, ih begins (fun mem => unopened (List.mem_cons_of_mem a mem)) starts.2⟩

omit [DecidableEq α] in
theorem not_prefix_past_opening {rest : List α} (word_ne : word ≠ []) (unclosed : closing ∉ word)
    (shorter : middle.length < word.length) (after : ∀ tail, tail <:+ rest → ¬word <+: tail) :
    ∀ tail, tail <:+ middle ++ closing :: rest → ¬word <+: tail := by
  induction middle with
  | nil =>
    intro tail inside starts
    rcases List.suffix_cons_iff.mp inside with rfl | inside
    · cases word with
      | nil => exact word_ne rfl
      | cons a word =>
        rw [List.cons_prefix_cons] at starts
        exact unclosed (starts.1 ▸ List.mem_cons_self)
    · exact after tail inside starts
  | cons a middle ih =>
    intro tail inside starts
    rcases List.suffix_cons_iff.mp inside with rfl | inside
    · have reached : word[(a :: middle).length]? = some closing := by
        have same := List.prefix_iff_getElem?.mp starts (a :: middle).length shorter
        have there : (a :: middle ++ closing :: rest)[(a :: middle).length]? = some closing := by
          rw [List.getElem?_append_right le_rfl, Nat.sub_self, List.getElem?_cons_zero]
        rw [List.getElem?_eq_getElem shorter, ← same]
        exact there
      exact unclosed (List.mem_of_getElem? reached)
    · exact ih (Nat.lt_of_succ_lt shorter) tail inside starts

theorem not_infix_replaceAll (word_ne : word ≠ []) (unopened : opening ∉ word)
    (unclosed : closing ∉ word) (shorter : middle.length < word.length) (text : List α) :
    ¬word <:+: replaceAll word (opening :: middle ++ [closing]) text := by
  have clean : ∀ skip tail, tail <:+ replaceFrom word (opening :: middle ++ [closing]) skip text →
      ¬word <+: tail := by
    induction text with
    | nil =>
      intro skip tail inside starts
      have nothing : replaceFrom word (opening :: middle ++ [closing]) skip [] = [] := by
        cases skip <;> rfl
      rw [nothing, List.suffix_nil] at inside
      subst inside
      exact word_ne (List.prefix_nil.mp starts)
    | cons c rest ih =>
      intro skip tail inside
      cases skip with
      | succ skip => exact ih skip tail inside
      | zero =>
        unfold replaceFrom at inside
        split_ifs at inside with found
        · rw [List.append_assoc, List.cons_append, List.singleton_append,
            List.suffix_cons_iff] at inside
          rcases inside with rfl | inside
          · -- an occurrence cannot start with the opening end
            intro starts
            cases word with
            | nil => exact word_ne rfl
            | cons a word =>
              rw [List.cons_prefix_cons] at starts
              exact unopened (starts.1 ▸ List.mem_cons_self)
          · exact not_prefix_past_opening word_ne unclosed shorter (ih _) tail inside
        · rcases List.suffix_cons_iff.mp inside with rfl | inside
          · -- an occurrence that starts with a character left alone was one before
            intro starts
            cases word with
            | nil => exact word_ne rfl
            | cons a word =>
              rw [List.cons_prefix_cons] at starts
              refine found (List.cons_prefix_cons.mpr ⟨starts.1, ?_⟩)
              exact prefix_of_prefix_replaceAll word rest
                (fun mem => unopened (List.mem_cons_of_mem a mem)) starts.2
          · exact ih 0 tail inside
  intro inside
  obtain ⟨tail, starts, ends⟩ := List.infix_iff_prefix_suffix.mp inside
  exact clean 0 tail ends starts

end

end TradeResearch

namespace TradeResearch.Like

variable {α : Type}

def firstEnd (test : List α → Option Bool) : List α → Option Bool
  | [] => test []
  | c :: rest =>
    match test (c :: rest) with
    | some false => firstEnd test rest
    | found => found

structure Wildcards (α : Type) where
  any : α
  one : α
  escape : α

variable [DecidableEq α] (w : Wildcards α)

def like : List α → List α → Option Bool
  | [], text => some text.isEmpty
  | p :: ps, text =>
    if p = w.escape then
      match text, ps with
      | [], _ => some false
      | _ :: _, [] => none
      | c :: rest, literal :: ps => if c = literal then like ps rest else some false
    else if p = w.any then firstEnd (like ps) text
    else
      match text with
      | [] => some false
      | c :: rest => if p = w.one ∨ c = p then like ps rest else some false

def Literal (text : List α) : Prop := ∀ c ∈ text, c ≠ w.any ∧ c ≠ w.one ∧ c ≠ w.escape

instance (text : List α) : Decidable (Literal w text) :=
  inferInstanceAs (Decidable (∀ c ∈ text, c ≠ w.any ∧ c ≠ w.one ∧ c ≠ w.escape))

variable {w}

theorem like_literal {pattern : List α} (literal : Literal w pattern) (text : List α) :
    like w pattern text = some (decide (text = pattern)) := by
  induction pattern generalizing text with
  | nil => cases text with
    | nil | cons c rest => rfl
  | cons p ps ih =>
    obtain ⟨any, one, escape⟩ := literal p (List.mem_cons_self ..)
    have rest := ih fun c mem => literal c (List.mem_cons_of_mem p mem)
    unfold like
    rw [if_neg escape, if_neg any]
    cases text with
    | nil => rfl
    | cons c text =>
      dsimp only
      by_cases same : c = p
      · rw [if_pos (.inr same), rest text, same]
        simp only [List.cons.injEq, true_and]
      · rw [if_neg (not_or.mpr ⟨one, same⟩)]
        simp only [List.cons.injEq, same, false_and, decide_false]

theorem firstEnd_eq (pattern text : List α) :
    firstEnd (fun text => some (decide (text = pattern))) text =
      some (decide (pattern <:+ text)) := by
  induction text with
  | nil =>
    unfold firstEnd
    simp only [List.suffix_nil, eq_comm]
  | cons c rest ih =>
    unfold firstEnd
    by_cases same : c :: rest = pattern
    · simp [same]
    · simp only [same, decide_false, ih, List.suffix_cons_iff, eq_comm (a := pattern), false_or]

theorem like_any_literal (distinct : w.any ≠ w.escape) {pattern : List α}
    (literal : Literal w pattern) (text : List α) :
    like w (w.any :: pattern) text = some (decide (pattern <:+ text)) := by
  have rest : like w pattern = fun text => some (decide (text = pattern)) :=
    funext (like_literal literal)
  unfold like
  rw [if_neg distinct, if_pos rfl, rest, firstEnd_eq]

end TradeResearch.Like
