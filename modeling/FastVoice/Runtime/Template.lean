import Mathlib.Data.List.Forall2

/-! # Texts with slots

A text of fixed parts and printed values. Where it shows in the text that a printed value has ended, two such
texts with the same fixed parts are the same exactly if their values are printed alike.
-/
namespace FastVoice.Template

variable {α β : Type}

inductive Piece (α β : Type) where
  | fixed (text : List α)
  | slot (value : β)

def render (print : β → List α) : List (Piece α β) → List α
  | [] => []
  | .fixed text :: pieces => text ++ render print pieces
  | .slot value :: pieces => print value ++ render print pieces

def slots : List (Piece α β) → List β
  | [] => []
  | .fixed _ :: pieces => slots pieces
  | .slot value :: pieces => value :: slots pieces

/-- A printed value ends where a character follows that can end it. -/
def Delimited (print : β → List α) (ends : α → Prop) : Prop :=
  ∀ (value value' : β) (c c' : α) (rest rest' : List α), ends c → ends c' →
    print value ++ c :: rest = print value' ++ c' :: rest' → print value = print value'

inductive Fits : Piece α β → Piece α β → Prop where
  | fixed (text : List α) : Fits (.fixed text) (.fixed text)
  | slot (value value' : β) : Fits (.slot value) (.slot value')

def Closed (ends : α → Prop) : List (Piece α β) → Prop
  | [] => True
  | .fixed _ :: pieces => Closed ends pieces
  | .slot _ :: pieces => (∃ c text rest, pieces = .fixed (c :: text) :: rest ∧ ends c) ∧ Closed ends pieces

variable {print : β → List α} {ends : α → Prop} {pieces pieces' more : List (Piece α β)}

theorem Fits.refl (piece : Piece α β) : Fits piece piece := by
  cases piece with
  | fixed text => exact .fixed text
  | slot value => exact .slot value value

theorem render_append : render print (pieces ++ more) = render print pieces ++ render print more := by
  induction pieces with
  | nil => rfl
  | cons piece pieces ih =>
    cases piece with
    | fixed text => simp [render, ih]
    | slot value => simp [render, ih]

theorem slots_append : slots (pieces ++ more) = slots pieces ++ slots more := by
  induction pieces with
  | nil => rfl
  | cons piece pieces ih =>
    cases piece with
    | fixed text => exact ih
    | slot value => exact congrArg (value :: ·) ih

theorem render_eq_iff (hPrint : Delimited print ends) (hFits : List.Forall₂ Fits pieces pieces')
    (hClosed : Closed ends pieces) :
    render print pieces = render print pieces' ↔ (slots pieces).map print = (slots pieces').map print := by
  induction hFits with
  | nil => simp [render, slots]
  | @cons piece piece' pieces pieces' hFirst hRest ih =>
    cases hFirst with
    | fixed text =>
      rw [render, render, List.append_right_inj]
      exact ih hClosed
    | slot value value' =>
      obtain ⟨⟨c, text, rest, rfl, hEnds⟩, hClosedRest⟩ := hClosed
      show _ ↔ print value :: (slots (.fixed (c :: text) :: rest)).map print =
        print value' :: (slots pieces').map print
      rw [List.cons.injEq, ← ih hClosedRest]
      constructor
      · intro h
        have hPrinted : print value = print value' := by
          cases hRest with
          | cons hNext hLast =>
            cases hNext
            simp only [render, List.cons_append] at h
            exact hPrint value value' c c _ _ hEnds hEnds h
        have hTexts : print value' ++ render print (.fixed (c :: text) :: rest) =
            print value' ++ render print pieces' := by
          calc
            _ = print value ++ render print (.fixed (c :: text) :: rest) := by rw [hPrinted]
            _ = _ := h
        exact ⟨hPrinted, List.append_cancel_left hTexts⟩
      · rintro ⟨hPrinted, hTexts⟩
        rw [render, hTexts, hPrinted]
        rfl

theorem flatMap_eq_iff {γ γ' : Type} {f : γ → List α} {f' : γ' → List α} {l : List γ} {l' : List γ'}
    (h : List.Forall₂ (fun x x' => (f x).length = (f' x').length) l l') :
    l.flatMap f = l'.flatMap f' ↔ List.Forall₂ (fun x x' => f x = f' x') l l' := by
  induction h with
  | nil => simp
  | cons hLength _ ih =>
    rw [List.flatMap_cons, List.flatMap_cons, List.forall₂_cons, ← ih]
    constructor
    · intro h
      exact List.append_inj h hLength
    · rintro ⟨hFirst, hRest⟩
      rw [hFirst, hRest]

end FastVoice.Template
