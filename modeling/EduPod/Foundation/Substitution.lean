import Mathlib

/-! # Words put in the place of other words

A text is cut at the occurrences of a word, from the left and without overlap, and joined by
another word. Where every occurrence is a marked one this puts the new word at the marks and
changes nothing else, and so does a sequence of such steps whatever its order, as long as no step
creates an occurrence that was not marked.
-/
namespace EduPod.Substitution
open List

section
variable {α : Type*}

def join (word : List α) (pieces : List (List α)) : List α := List.intercalate word pieces

theorem join_cons (word piece : List α) {pieces : List (List α)} (h : pieces ≠ []) :
    join word (piece :: pieces) = piece ++ word ++ join word pieces := by
  cases pieces with
  | nil => exact absurd rfl h
  | cons p ps => simp [join,List.intercalate]

/-! ## One word -/

/-- A text with marks, and a word at each of them. -/
def fill (word : List α) (marked : List (Option α)) : List α := marked.flatMap fun mark => mark.elim word ([·])

@[simp] theorem fill_nil (word : List α) : fill word [] = [] := rfl
@[simp] theorem fill_none (word : List α) (marked : List (Option α)) : fill word (none :: marked) = word ++ fill word marked := rfl
@[simp] theorem fill_some (word : List α) (c : α) (marked : List (Option α)) :
    fill word (some c :: marked) = c :: fill word marked := rfl

/-- The word occurs at the marks only. -/
def OnlyMarked (word : List α) (marked : List (Option α)) : Prop :=
  ∀ before after, fill word marked = before ++ word ++ after →
    ∃ ms ms', marked = ms ++ none :: ms' ∧ fill word ms = before

variable {word : List α} {marked : List (Option α)}

theorem OnlyMarked.tail {mark : Option α} (hne : word ≠ []) (h : OnlyMarked word (mark :: marked)) : OnlyMarked word marked := by
  intro before after he
  have hfill : ∀ ms, fill word (mark :: ms) = mark.elim word ([·]) ++ fill word ms := fun _ => rfl
  have hpos : mark.elim word ([·]) ≠ [] := by
    cases mark with
    | none => exact hne
    | some c => exact List.cons_ne_nil _ _
  obtain ⟨ms,ms',hms,hbefore⟩ := h (mark.elim word ([·]) ++ before) after (by rw [hfill,he]; simp only [List.append_assoc])
  cases ms with
  | nil =>
    rw [fill_nil] at hbefore
    exact absurd (List.append_eq_nil_iff.mp hbefore.symm).1 hpos
  | cons m ms =>
    obtain ⟨rfl,hmarked⟩ := List.cons.inj hms
    exact ⟨ms,ms',hmarked,List.append_cancel_left ((hfill ms).symm.trans hbefore)⟩

variable [DecidableEq α]

/-- The pieces between the occurrences of a non-empty word; `skip` letters of an occurrence are
still to be passed, and `piece` is what the current piece has so far. -/
@[grind] def cut (word : List α) : ℕ → List α → List α → List (List α)
  | _, piece, [] => [piece]
  | 0, piece, c :: cs =>
    if word.isPrefixOf (c :: cs) then piece :: cut word (word.length - 1) [] cs
    else cut word 0 (piece ++ [c]) cs
  | skip + 1, piece, _ :: cs => cut word skip piece cs

def split (word text : List α) : List (List α) := cut word 0 [] text

theorem cut_ne_nil (word : List α) : ∀ (text : List α) (skip : ℕ) (piece : List α), cut word skip piece text ≠ []
  | [], _, _ => by simp [cut]
  | c :: cs, 0, piece => by
    unfold cut
    split
    · simp
    · exact cut_ne_nil word cs 0 _
  | _ :: cs, skip + 1, piece => cut_ne_nil word cs skip piece

theorem cut_append (word passed piece text : List α) : cut word passed.length piece (passed ++ text) = cut word 0 piece text := by
  induction passed with
  | nil => rfl
  | cons c passed ih => exact ih

theorem join_cut_fill (hne : word ≠ []) (h : OnlyMarked word marked) (real piece : List α) :
    join real (cut word 0 piece (fill word marked)) = piece ++ fill real marked := by
  induction marked generalizing piece with
  | nil => simp [cut,join,List.intercalate]
  | cons mark marked ih =>
    have htail := h.tail hne
    cases mark with
    | none =>
      obtain ⟨c,cs,rfl⟩ := List.exists_cons_of_ne_nil hne
      have hprefix : (c :: cs).isPrefixOf (c :: (cs ++ fill (c :: cs) marked)) = true := by
        rw [List.isPrefixOf_iff_prefix]
        exact ⟨fill (c :: cs) marked,rfl⟩
      rw [fill_none,List.cons_append,cut,if_pos hprefix,join_cons _ _ (cut_ne_nil _ _ _ _),List.length_cons,
        Nat.add_sub_cancel,cut_append,ih htail]
      simp
    | some c =>
      have hprefix : ¬word.isPrefixOf (c :: fill word marked) = true := by
        rw [List.isPrefixOf_iff_prefix]
        rintro ⟨after,hafter⟩
        obtain ⟨ms,ms',hms,hbefore⟩ := h [] after hafter.symm
        cases ms with
        | nil => cases hms
        | cons m ms =>
          obtain ⟨rfl,-⟩ := List.cons.inj hms
          cases hbefore
      rw [fill_some,cut,if_neg hprefix,ih htail]
      simp

theorem join_split_fill (hne : word ≠ []) (h : OnlyMarked word marked) (real : List α) :
    join real (split word (fill word marked)) = fill real marked := join_cut_fill hne h real []

end

/-! ## References to many words -/

/-- A part of a text: letters, or a reference. -/
inductive Part (α ι : Type*)
  | letters (s : List α)
  | ref (i : ι)

section
variable {α ι : Type*}

def render (word : ι → List α) (parts : List (Part α ι)) : List α :=
  parts.flatMap fun part =>
    match part with
    | .letters s => s
    | .ref i => word i

@[simp] theorem render_nil (word : ι → List α) : render word [] = [] := rfl

@[simp] theorem render_letters (word : ι → List α) (s : List α) (parts : List (Part α ι)) :
    render word (.letters s :: parts) = s ++ render word parts := rfl

@[simp] theorem render_ref (word : ι → List α) (i : ι) (parts : List (Part α ι)) :
    render word (.ref i :: parts) = word i ++ render word parts := rfl

/-- The word of `i` occurs at the references to it only. -/
def OnlyAtRefs (word : ι → List α) (parts : List (Part α ι)) (i : ι) : Prop :=
  ∀ before after, render word parts = before ++ word i ++ after →
    ∃ ps qs, parts = ps ++ .ref i :: qs ∧ render word ps = before

variable [DecidableEq ι]

/-- The text with the references to `i` marked. -/
def marks (word : ι → List α) (i : ι) (parts : List (Part α ι)) : List (Option α) :=
  parts.flatMap fun part =>
    match part with
    | .letters s => s.map some
    | .ref j => if j = i then [none] else (word j).map some

theorem fill_map_some (w s : List α) (marked : List (Option α)) : fill w (s.map some ++ marked) = s ++ fill w marked := by
  induction s with
  | nil => rfl
  | cons c s ih => exact congrArg (c :: ·) ih

@[simp] theorem marks_nil (word : ι → List α) (i : ι) : marks word i [] = [] := rfl

@[simp] theorem marks_letters (word : ι → List α) (i : ι) (s : List α) (parts : List (Part α ι)) :
    marks word i (.letters s :: parts) = s.map some ++ marks word i parts := rfl

@[simp] theorem marks_ref (word : ι → List α) (i j : ι) (parts : List (Part α ι)) :
    marks word i (.ref j :: parts) = (if j = i then [none] else (word j).map some) ++ marks word i parts := rfl

theorem marks_append (word : ι → List α) (i : ι) (ps qs : List (Part α ι)) :
    marks word i (ps ++ qs) = marks word i ps ++ marks word i qs := List.flatMap_append

theorem fill_marks (word : ι → List α) (i : ι) (w : List α) (parts : List (Part α ι)) :
    fill w (marks word i parts) = render (Function.update word i w) parts := by
  induction parts with
  | nil => rfl
  | cons part parts ih =>
    cases part with
    | letters s => rw [marks_letters,fill_map_some,ih,render_letters]
    | ref j =>
      rw [marks_ref,render_ref]
      split
      · rename_i hj
        rw [hj,Function.update_self,← ih]
        rfl
      · rename_i hj
        rw [fill_map_some,ih,Function.update_of_ne hj]

/-- One step of the substitution. -/
theorem join_split_render [DecidableEq α] {word : ι → List α} {parts : List (Part α ι)} {i : ι} (hne : word i ≠ [])
    (h : OnlyAtRefs word parts i) (real : List α) :
    join real (split (word i) (render word parts)) = render (Function.update word i real) parts := by
  have hself : ∀ ps, fill (word i) (marks word i ps) = render word ps := fun ps => by
    rw [fill_marks,Function.update_eq_self]
  have hmarked : OnlyMarked (word i) (marks word i parts) := by
    intro before after he
    obtain ⟨ps,qs,rfl,hbefore⟩ := h before after ((hself parts).symm.trans he)
    exact ⟨marks word i ps,marks word i qs,by rw [marks_append,marks_ref,if_pos rfl]; rfl,(hself ps).trans hbefore⟩
  rw [← hself,join_split_fill hne hmarked,fill_marks]

/-- The references that `done` holds of say what they stand for, the others still their word. -/
def stage (word real : ι → List α) (done : Finset ι) (i : ι) : List α := if i ∈ done then real i else word i

/-- No word ever occurs but at a reference to it, whatever references are already replaced. -/
def Clean (word real : ι → List α) (parts : List (Part α ι)) (refs : List ι) : Prop :=
  ∀ done : Finset ι, ∀ i ∈ refs, i ∉ done → OnlyAtRefs (stage word real done) parts i

theorem stage_insert (word real : ι → List α) (done : Finset ι) (i : ι) :
    stage word real (insert i done) = Function.update (stage word real done) i (real i) := by
  funext j
  by_cases hj : j = i
  · subst hj
    simp [stage]
  · simp [stage,hj]

theorem mem_foldl_insert {order : List ι} {done : Finset ι} {i : ι} :
    i ∈ order.foldl (fun done j => insert j done) done ↔ i ∈ order ∨ i ∈ done := by
  induction order generalizing done with
  | nil => simp
  | cons j order ih =>
    rw [List.foldl_cons,ih,Finset.mem_insert,List.mem_cons]
    tauto

theorem foldl_join_split [DecidableEq α] {word real : ι → List α} {parts : List (Part α ι)} {refs : List ι}
    (hne : ∀ i ∈ refs, word i ≠ []) (hclean : Clean word real parts refs) {order : List ι} (hnodup : order.Nodup)
    (horder : ∀ i ∈ order, i ∈ refs) (done : Finset ι) (hdone : ∀ i ∈ order, i ∉ done) :
    order.foldl (fun text i => join (real i) (split (word i) text)) (render (stage word real done) parts) =
      render (stage word real (order.foldl (fun done i => insert i done) done)) parts := by
  induction order generalizing done with
  | nil => rfl
  | cons i order ih =>
    have hi := hdone i List.mem_cons_self
    have hword : stage word real done i = word i := if_neg hi
    have hstage : stage word real done i ≠ [] := by
      rw [hword]
      exact hne i (horder i List.mem_cons_self)
    have hstep := join_split_render hstage (hclean done i (horder i List.mem_cons_self) hi) (real i)
    rw [hword,← stage_insert] at hstep
    rw [List.foldl_cons,List.foldl_cons,hstep]
    obtain ⟨hnot,hrest⟩ := List.nodup_cons.mp hnodup
    refine ih hrest (fun j hj => horder j (List.mem_cons_of_mem _ hj)) _ fun j hj => ?_
    rw [Finset.mem_insert,not_or]
    exact ⟨fun he => hnot (he ▸ hj),hdone j (List.mem_cons_of_mem _ hj)⟩

end

end EduPod.Substitution
