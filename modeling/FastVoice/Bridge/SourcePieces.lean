import FastVoice.Bridge.GenerateCode
import FastVoice.Runtime.Template

/-! # Generated source and the values in it

The lines of generated source as texts with slots for the values of node data. Two sources that differ in
these values alone are the same exactly if the values are printed alike.
-/
namespace FastVoice.Bridge
open Python Template

variable {F : Type} (py : Interpreter F) (printer : Printer F)

def printed (value : Value F) : List Char := (printer.pformat value).toList

def EndsLiteral (c : Char) : Prop := c = ',' ∨ c = ')'

/-- What is relied on of `pprint`: where a printed value stands in an argument list, its text ends at the
comma or the parenthesis that follows it. -/
def ReadableLiterals : Prop := Delimited (printed printer) EndsLiteral

def argumentPieces : Fields F → List (Piece Char (Value F))
  | [] => []
  | [field] => [.fixed (field.1 ++ "=").toList, .slot field.2]
  | field :: next :: fields =>
    .fixed (field.1 ++ "=").toList :: .slot field.2 :: .fixed [',', ' '] :: argumentPieces (next :: fields)

def Line.pieces : Line F → List (Piece Char (Value F))
  | .node bound type data =>
    .fixed (bound ++ " = workflow.add_typed(" ++ className type ++ "(").toList ::
      (argumentPieces data ++ [.fixed [')', ')']])
  | line => [.fixed (line.text py printer).toList]

def linesPieces : List (Line F) → List (Piece Char (Value F))
  | [] => []
  | [line] => line.pieces py printer
  | line :: next :: lines => line.pieces py printer ++ .fixed ['\n'] :: linesPieces (next :: lines)

def Line.values : Line F → List (Value F)
  | .node _ _ data => data.map Prod.snd
  | _ => []

inductive SameButData : Line F → Line F → Prop where
  | same (line : Line F) : SameButData line line
  | node (bound : String) (type : Workflows.NodeType) {data data' : Fields F}
      (hNames : data.map Prod.fst = data'.map Prod.fst) :
      SameButData (.node bound type data) (.node bound type data')

variable {printer}

theorem render_arguments (fields : Fields F) :
    render (printed printer) (argumentPieces fields) = (arguments printer fields).toList := by
  induction fields using argumentPieces.induct with
  | case1 => simp [argumentPieces, render, arguments]
  | case2 field => simp [argumentPieces, render, arguments, printed]
  | case3 field next fields ih =>
    rw [argumentPieces, render, render, render, ih]
    simp [arguments, printed, String.intercalate_cons_cons]

theorem slots_arguments (fields : Fields F) : slots (argumentPieces fields) = fields.map Prod.snd := by
  induction fields using argumentPieces.induct with
  | case1 => rfl
  | case2 field => rfl
  | case3 field next fields ih => simpa [argumentPieces, slots] using ih

theorem closed_arguments (fields : Fields F) {more : List (Piece Char (Value F))} (text : List Char)
    (hMore : Closed EndsLiteral more) :
    Closed EndsLiteral (argumentPieces fields ++ .fixed (')' :: text) :: more) := by
  induction fields using argumentPieces.induct with
  | case1 => exact hMore
  | case2 field => exact ⟨⟨')', text, more, rfl, .inr rfl⟩, hMore⟩
  | case3 field next fields ih => exact ⟨⟨',', [' '], _, rfl, .inl rfl⟩, ih⟩

theorem fits_arguments {fields fields' : Fields F} (h : fields.map Prod.fst = fields'.map Prod.fst) :
    List.Forall₂ Fits (argumentPieces fields) (argumentPieces fields') := by
  induction fields using argumentPieces.induct generalizing fields' with
  | case1 =>
    obtain rfl : fields' = [] := by simpa using h.symm
    exact .nil
  | case2 field =>
    obtain ⟨field', rfl, hName⟩ : ∃ field', fields' = [field'] ∧ field'.1 = field.1 := by
      simpa [List.map_eq_cons_iff] using h.symm
    rw [argumentPieces, argumentPieces, hName]
    exact .cons (.fixed _) (.cons (.slot _ _) .nil)
  | case3 field next fields ih =>
    cases fields' with
    | nil => simp at h
    | cons field' rest =>
      cases rest with
      | nil => simp at h
      | cons next' rest =>
        obtain ⟨hName, hRest⟩ := List.cons.inj h
        rw [argumentPieces, argumentPieces, ← hName]
        exact .cons (.fixed _) (.cons (.slot _ _) (.cons (.fixed _) (ih hRest)))

section Lines

variable {py} {line line' : Line F} {lines lines' : List (Line F)}

theorem text_node (bound : String) (type : Workflows.NodeType) (data : Fields F) :
    (Line.node bound type data).text py printer =
      bound ++ " = workflow.add_typed(" ++ className type ++ "(" ++ arguments printer data ++ "))" := rfl

theorem render_line (line : Line F) :
    render (printed printer) (line.pieces py printer) = (line.text py printer).toList := by
  cases line with
  | node bound type data =>
    have hEnd : "))".toList = [')', ')'] := by decide
    rw [Line.pieces, render, render_append, render_arguments, render, render]
    simp only [text_node, String.toList_append, hEnd, List.append_assoc, List.append_nil]
  | _ => exact List.append_nil _

theorem render_lines (lines : List (Line F)) : render (printed printer) (linesPieces py printer lines) =
    ("\n".intercalate (lines.map (Line.text py printer))).toList := by
  induction lines using linesPieces.induct with
  | case1 => simp [linesPieces, render]
  | case2 line => simp [linesPieces, render_line]
  | case3 line next lines ih =>
    rw [linesPieces, render_append, render, ih, render_line]
    simp [String.intercalate_cons_cons]

theorem slots_line (line : Line F) : slots (line.pieces py printer) = line.values := by
  cases line with
  | node bound type data =>
    rw [Line.pieces, slots, slots_append, slots_arguments]
    simp [slots, Line.values]
  | _ => rfl

theorem slots_lines (lines : List (Line F)) : slots (linesPieces py printer lines) = lines.flatMap Line.values := by
  induction lines using linesPieces.induct with
  | case1 => rfl
  | case2 line => simp [linesPieces, slots_line]
  | case3 line next lines ih =>
    rw [linesPieces, slots_append, slots, ih, slots_line]
    rfl

theorem closed_line (line : Line F) {more : List (Piece Char (Value F))} (hMore : Closed EndsLiteral more) :
    Closed EndsLiteral (line.pieces py printer ++ more) := by
  cases line with
  | node bound type data =>
    simp only [Line.pieces, List.cons_append, List.append_assoc, List.nil_append]
    exact closed_arguments data [')'] hMore
  | _ => exact hMore

theorem closed_lines (lines : List (Line F)) : Closed EndsLiteral (linesPieces py printer lines) := by
  induction lines using linesPieces.induct with
  | case1 => exact trivial
  | case2 line =>
    have hLine : Closed EndsLiteral (line.pieces py printer ++ []) := closed_line line trivial
    rwa [List.append_nil] at hLine
  | case3 line next lines ih => exact closed_line line ih

theorem fits_line (h : SameButData line line') :
    List.Forall₂ Fits (line.pieces py printer) (line'.pieces py printer) := by
  cases h with
  | same => exact List.forall₂_same.mpr fun piece _ => Fits.refl piece
  | node bound type hNames =>
    exact .cons (.fixed _) (List.rel_append (fits_arguments hNames) (.cons (.fixed _) .nil))

theorem fits_lines (h : List.Forall₂ SameButData lines lines') :
    List.Forall₂ Fits (linesPieces py printer lines) (linesPieces py printer lines') := by
  induction h with
  | nil => exact .nil
  | cons hLine hRest ih =>
    cases hRest with
    | nil => exact fits_line hLine
    | cons hNext hLast => exact List.rel_append (fits_line hLine) (.cons (.fixed _) ih)

theorem SameButData.length_values (h : SameButData line line') : line.values.length = line'.values.length := by
  cases h with
  | same => rfl
  | node bound type hNames => simpa [Line.values] using congrArg List.length hNames

variable (printer) in
def ShowsAlike (line line' : Line F) : Prop :=
  line.values.map (printed printer) = line'.values.map (printed printer)

theorem intercalate_eq_iff (hPrinter : ReadableLiterals printer) (h : List.Forall₂ SameButData lines lines') :
    "\n".intercalate (lines.map (Line.text py printer)) = "\n".intercalate (lines'.map (Line.text py printer)) ↔
      List.Forall₂ (ShowsAlike printer) lines lines' := by
  have hLengths : List.Forall₂ (fun line line' : Line F => (line.values.map (printed printer)).length =
      (line'.values.map (printed printer)).length) lines lines' :=
    h.imp fun line line' hLine => by simpa using hLine.length_values
  rw [← String.toList_inj, ← render_lines, ← render_lines, render_eq_iff hPrinter (fits_lines h) (closed_lines lines),
    slots_lines, slots_lines, List.map_flatMap, List.map_flatMap]
  exact flatMap_eq_iff hLengths

def Line.isCall : Line F → Bool
  | .node _ _ _ => true
  | .edge _ _ _ => true
  | _ => false

theorem text_of_isCall (h : line.isCall = true) : ∃ text, line.text py printer = text ++ ")" := by
  cases line with
  | node bound type data =>
    refine ⟨bound ++ " = workflow.add_typed(" ++ className type ++ "(" ++ arguments printer data ++ ")", ?_⟩
    have hEnd : "))" = ")" ++ ")" := by decide
    rw [text_node, hEnd]
    simp only [String.append_assoc]
  | edge source target data =>
    exact ⟨"workflow.edge(" ++ source ++ ", " ++ target ++ ", " ++ arguments printer data, rfl⟩
  | _ => cases h

theorem intercalate_of_isCall (lines : List (Line F)) (h : line.isCall = true) :
    ∃ text, "\n".intercalate ((lines ++ [line]).map (Line.text py printer)) = text ++ ")" := by
  obtain ⟨text, hText⟩ : ∃ text, line.text py printer = text ++ ")" := text_of_isCall h
  cases lines with
  | nil => exact ⟨text, by simpa using hText⟩
  | cons first lines =>
    refine ⟨"\n".intercalate ((first :: lines).map (Line.text py printer)) ++ "\n" ++ text, ?_⟩
    rw [List.map_append, String.intercalate_append_of_ne_nil (by simp) (by simp), List.map_singleton,
      String.intercalate_singleton, hText, ← String.append_assoc]

theorem sourceOf_of_isCall (lines : List (Line F)) (h : line.isCall = true) :
    sourceOf py printer (lines ++ [line]) =
      "\n".intercalate ((lines ++ [line]).map (Line.text py printer)) ++ "\n" := by
  obtain ⟨text, hText⟩ : ∃ text, "\n".intercalate ((lines ++ [line]).map (Line.text py printer)) = text ++ ")" :=
    intercalate_of_isCall lines h
  have hEnd : (text ++ ")").toList = text.toList ++ [')'] := String.toList_append
  unfold sourceOf
  dsimp only
  rw [hText, hEnd, List.rdropWhile_concat_neg _ _ _ (by decide), ← hEnd, String.ofList_toList]

theorem SameButData.isCall_eq (h : SameButData line line') : line'.isCall = line.isCall := by
  cases h <;> rfl

variable (py) in
theorem sourceOf_concat_eq_iff (hPrinter : ReadableLiterals printer) (h : List.Forall₂ SameButData lines lines')
    (hLine : SameButData line line') (hCall : line.isCall = true) :
    sourceOf py printer (lines ++ [line]) = sourceOf py printer (lines' ++ [line']) ↔
      List.Forall₂ (ShowsAlike printer) (lines ++ [line]) (lines' ++ [line']) := by
  rw [sourceOf_of_isCall lines hCall, sourceOf_of_isCall lines' (hLine.isCall_eq.trans hCall)]
  have hAll : List.Forall₂ SameButData (lines ++ [line]) (lines' ++ [line']) :=
    List.rel_append h (.cons hLine .nil)
  rw [← intercalate_eq_iff hPrinter hAll]
  constructor
  · intro hText
    have hChars := congrArg String.toList hText
    rw [String.toList_append, String.toList_append] at hChars
    exact String.toList_inj.mp (List.append_cancel_right hChars)
  · intro hText
    rw [hText]

theorem forall₂_around_iff {R : Line F → Line F → Prop} (hRefl : ∀ line, R line line) (before after : List (Line F))
    (hLength : lines.length = lines'.length) :
    List.Forall₂ R (before ++ (lines ++ after)) (before ++ (lines' ++ after)) ↔ List.Forall₂ R lines lines' := by
  constructor
  · intro h
    induction before with
    | nil =>
      have hFirst := List.forall₂_take_append (lines ++ after) lines' after h
      rwa [← hLength, List.take_left] at hFirst
    | cons line before ih =>
      cases h with
      | cons _ hRest => exact ih hRest
  · intro h
    have hSame : ∀ l : List (Line F), List.Forall₂ R l l := fun l => List.forall₂_same.mpr fun line _ => hRefl line
    exact List.rel_append (hSame before) (List.rel_append h (hSame after))

theorem sourceOf_eq_iff (hPrinter : ReadableLiterals printer) (before after : List (Line F))
    (h : List.Forall₂ SameButData lines lines') (hCalls : ∀ line ∈ lines, line.isCall = true)
    (hAfter : after = [] ∨ ∃ first line, after = first ++ [line] ∧ line.isCall = true) :
    sourceOf py printer (before ++ (lines ++ after)) = sourceOf py printer (before ++ (lines' ++ after)) ↔
      List.Forall₂ (ShowsAlike printer) lines lines' := by
  have hSame : ∀ l : List (Line F), List.Forall₂ SameButData l l :=
    fun l => List.forall₂_same.mpr fun line _ => .same line
  have hRefl : ∀ line : Line F, ShowsAlike printer line line := fun line => rfl
  have hAround := forall₂_around_iff hRefl before after h.length_eq
  rw [← hAround]
  obtain rfl | ⟨first, line, rfl, hCall⟩ := hAfter
  · obtain rfl | ⟨first, line, rfl⟩ := List.eq_nil_or_concat' lines
    · obtain rfl : lines' = [] := List.forall₂_nil_left_iff.mp h
      exact iff_of_true rfl (List.forall₂_same.mpr fun line _ => rfl)
    · obtain ⟨first', line', rfl⟩ : ∃ first' line', lines' = first' ++ [line'] := by
        obtain rfl | hConcat := List.eq_nil_or_concat' lines'
        · simpa using h.length_eq
        · exact hConcat
      have hLengths : first.length = first'.length := by simpa using h.length_eq
      have hFirst := List.forall₂_take_append (first ++ [line]) first' [line'] h
      have hLast := List.forall₂_drop_append (first ++ [line]) first' [line'] h
      rw [← hLengths, List.take_left] at hFirst
      rw [← hLengths, List.drop_left] at hLast
      cases hLast with
      | cons hLine _ =>
        simpa using sourceOf_concat_eq_iff py hPrinter (List.rel_append (hSame before) hFirst) hLine
          (hCalls line (by simp))
  · simpa using sourceOf_concat_eq_iff py hPrinter
      (List.rel_append (hSame before) (List.rel_append h (hSame first))) (.same line) hCall

end Lines

end FastVoice.Bridge
