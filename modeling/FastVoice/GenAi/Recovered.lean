import FastVoice.GenAi.JsonParser

/-! # What is recovered from prose

A container between prose is found again, unless fences in its strings enclose another one or an array has an object
that comes before its brackets are tried.
-/
namespace FastVoice.GenAi
open Python.Loads

def backtick : Char := Char.ofNat 96

/-- Text without brackets, quotes, backslashes and backticks. -/
def Prose (text : List Char) : Prop := ∀ c ∈ text, Plain c ∧ c ≠ backtick

def Spaces (text : List Char) : Prop := ∀ c ∈ text, Text.isSpace c = true

def FencedIn (text : List Char) (value : Value) : Prop :=
  ∃ block, codeBlock text = some block ∧ tryParseJson block = some value

def OpensObject (text : List Char) : Prop :=
  ∃ before object after value, text = before ++ object ++ after ∧ Kind.object.opening ∉ before ∧
    object.head? = some Kind.object.opening ∧ loads object = some value ∧ value.kind? = some .object

section Texts

variable {kind : Kind} {body rest text before after : List Char} {value : Value} {c : Char}

/-! ## Bodies -/

theorem opening_injective {kind kind' : Kind} (h : kind.opening = kind'.opening) : kind = kind' := by
  cases kind <;> cases kind' <;> first | rfl | exact absurd h (by decide)

theorem Body.unique {kind' : Kind} {body' rest' : List Char} {value' : Value} (h : Body kind body value)
    (h' : Body kind' body' value') (hEq : body ++ rest = body' ++ rest') :
    body = body' ∧ kind = kind' ∧ value = value' := by
  have hHead : some kind.opening = some kind'.opening := by
    have hSame := congrArg List.head? hEq
    rw [List.head?_append, List.head?_append, h.opens, h'.opens] at hSame
    exact hSame
  obtain rfl := opening_injective (Option.some.inj hHead)
  have hSame : some body = some body' := by rw [← h.scanned rest, hEq, h'.scanned rest']
  obtain rfl := Option.some.inj hSame
  exact ⟨rfl, rfl, Option.some.inj (h.reads.symm.trans h'.reads)⟩

theorem tryParseJson_iff {content : List Char} :
    tryParseJson content = some value ↔ loads content = some value ∧ ∃ kind, value.kind? = some kind := by
  rw [tryParseJson, Option.filter_eq_some_iff, Option.isSome_iff_exists]

theorem Body.parsed (h : Body kind body value) : tryParseJson body = some value :=
  tryParseJson_iff.mpr ⟨h.reads, kind, h.isKind⟩

theorem isSpace_of_blank (h : isBlank c = true) : Text.isSpace c = true := by
  simp only [isBlank, Bool.or_eq_true, decide_eq_true_eq] at h
  obtain ((rfl | rfl) | rfl) | rfl := h <;> rfl

theorem opening_not_space (kind : Kind) : Text.isSpace kind.opening = false := by cases kind <;> rfl

theorem closing_not_space (kind : Kind) : Text.isSpace kind.closing = false := by cases kind <;> rfl

theorem body_of_stripped (hParsed : tryParseJson text = some value) (hHead : ∀ c ∈ text.head?, Text.isSpace c = false)
    (hLast : ∀ c ∈ text.getLast?, Text.isSpace c = false) : ∃ kind, Body kind text value := by
  obtain ⟨hLoads, kind, hKind⟩ := tryParseJson_iff.mp hParsed
  obtain ⟨front, body, back, rfl, hFront, hBack, hBody⟩ := body_of_loads hLoads hKind
  have hNoFront : front = [] := by
    cases front with
    | nil => rfl
    | cons c front =>
      have hSpace := isSpace_of_blank (hFront c List.mem_cons_self)
      rw [hHead c rfl] at hSpace
      cases hSpace
  have hNoBack : back = [] := by
    obtain rfl | ⟨back, c, rfl⟩ := List.eq_nil_or_concat' back
    · rfl
    · have hSpace := isSpace_of_blank (hBack c (by simp))
      rw [hLast c (by simp [← List.append_assoc])] at hSpace
      cases hSpace
  rw [hNoFront, hNoBack, List.nil_append, List.append_nil]
  exact ⟨kind, hBody⟩

/-! ## Stripping -/

theorem dropWhile_append_stop {p : Char → Bool} (hHead : rest.head? = some c) (hStop : p c = false) :
    (text ++ rest).dropWhile p = text.dropWhile p ++ rest := by
  induction text with
  | nil =>
    cases rest with
    | nil => cases hHead
    | cons first rest =>
      obtain rfl := Option.some.inj hHead
      rw [List.nil_append, List.dropWhile_cons_of_neg (ne_true_of_eq_false hStop)]
      rfl
  | cons first text ih =>
    rw [List.cons_append, List.dropWhile_cons, List.dropWhile_cons]
    split
    · exact ih
    · rfl

theorem rdropWhile_append_stop {p : Char → Bool} (hLast : text.getLast? = some c) (hStop : p c = false) :
    (text ++ rest).rdropWhile p = text ++ rest.rdropWhile p := by
  rw [List.rdropWhile, List.reverse_append, dropWhile_append_stop (by rw [List.head?_reverse, hLast]) hStop,
    List.reverse_append, List.reverse_reverse]
  rfl

theorem strip_append {last : Char} (hHead : text.head? = some c) (hSpace : Text.isSpace c = false)
    (hLast : text.getLast? = some last) (hSpace' : Text.isSpace last = false) :
    Text.stripChars (before ++ text ++ after) =
      before.dropWhile Text.isSpace ++ text ++ after.rdropWhile Text.isSpace := by
  rw [Text.stripChars, List.append_assoc, dropWhile_append_stop (by rw [List.head?_append, hHead]; rfl) hSpace,
    ← List.append_assoc, rdropWhile_append_stop _ hSpace']
  rw [List.getLast?_append, hLast]
  rfl

theorem head_dropWhile_spaces : ∀ c ∈ (text.dropWhile Text.isSpace).head?, Text.isSpace c = false := by
  intro c hHead
  have hNot := List.head?_dropWhile_not Text.isSpace text
  rw [Option.mem_def.mp hHead] at hNot
  exact hNot

theorem getLast_rdropWhile_spaces : ∀ c ∈ (text.rdropWhile Text.isSpace).getLast?, Text.isSpace c = false := by
  intro c hLast
  rw [List.rdropWhile, List.getLast?_reverse] at hLast
  exact head_dropWhile_spaces c hLast

/-! ## Fences -/

def NoBacktick (text : List Char) : Prop := ∀ c ∈ text, c ≠ backtick

theorem fence_eq : fence = List.replicate 3 backtick := rfl

theorem afterFence_append (h : NoBacktick text) (rest : List Char) : afterFence (text ++ rest) = afterFence rest := by
  induction text with
  | nil => rfl
  | cons c text ih =>
    obtain ⟨hFirst, hText⟩ := List.forall_mem_cons.mp h
    rw [List.cons_append, afterFence, if_neg, ih hText]
    intro hPrefix
    obtain ⟨tail, hTail⟩ := List.isPrefixOf_iff_prefix.mp hPrefix
    exact hFirst (List.cons.inj hTail).1.symm

theorem beforeFence_append (h : NoBacktick text) (rest : List Char) :
    beforeFence (text ++ rest) = (beforeFence rest).map (text ++ ·) := by
  induction text with
  | nil => simp
  | cons c text ih =>
    obtain ⟨hFirst, hText⟩ := List.forall_mem_cons.mp h
    rw [List.cons_append, beforeFence, if_neg, ih hText, Option.map_map]
    · rfl
    intro hPrefix
    obtain ⟨tail, hTail⟩ := List.isPrefixOf_iff_prefix.mp hPrefix
    exact hFirst (List.cons.inj hTail).1.symm

theorem fence_prefix_append (text : List Char) (h : NoBacktick rest) : fence <+: text ++ rest ↔ fence <+: text := by
  constructor
  · intro hPrefix
    obtain hText | hFence := List.prefix_or_prefix_of_prefix hPrefix (List.prefix_append text rest)
    · exact hText
    · obtain ⟨tail, hTail⟩ := hFence
      rw [← hTail, List.prefix_append_right_inj] at hPrefix
      cases tail with
      | nil => rw [← hTail, List.append_nil]
      | cons c tail =>
        obtain ⟨more, rfl⟩ := hPrefix
        have hMem : c ∈ fence := by
          rw [← hTail]
          simp
        rw [fence_eq] at hMem
        exact absurd (List.eq_of_mem_replicate hMem) (h c (by simp))
  · exact fun hPrefix => hPrefix.trans (List.prefix_append text rest)

theorem afterFence_of_noBacktick (h : NoBacktick text) : afterFence text = none := by
  have hAppend := afterFence_append h []
  rwa [List.append_nil] at hAppend

theorem beforeFence_of_noBacktick (h : NoBacktick text) : beforeFence text = none := by
  have hAppend := beforeFence_append h []
  rwa [List.append_nil] at hAppend

theorem afterFence_append_right (h : NoBacktick rest) :
    afterFence (text ++ rest) = (afterFence text).map (· ++ rest) := by
  induction text with
  | nil => exact afterFence_of_noBacktick h
  | cons c text ih =>
    have hIff : fence.isPrefixOf (c :: (text ++ rest)) = true ↔ fence.isPrefixOf (c :: text) = true := by
      rw [List.isPrefixOf_iff_prefix, List.isPrefixOf_iff_prefix]
      exact fence_prefix_append (c :: text) h
    rw [List.cons_append, afterFence, afterFence]
    simp only [hIff]
    split
    · rename_i hPrefix
      obtain ⟨tail, hTail⟩ := List.isPrefixOf_iff_prefix.mp hPrefix
      rw [← List.cons_append, ← hTail, Option.map_some, List.append_assoc]
      rfl
    · exact ih

theorem beforeFence_append_right (h : NoBacktick rest) : beforeFence (text ++ rest) = beforeFence text := by
  induction text with
  | nil => exact beforeFence_of_noBacktick h
  | cons c text ih =>
    have hIff : fence.isPrefixOf (c :: (text ++ rest)) = true ↔ fence.isPrefixOf (c :: text) = true := by
      rw [List.isPrefixOf_iff_prefix, List.isPrefixOf_iff_prefix]
      exact fence_prefix_append (c :: text) h
    rw [List.cons_append, beforeFence, beforeFence]
    simp only [hIff, ih]

theorem codeBlock_append (hBefore : NoBacktick before) (hAfter : NoBacktick after) :
    codeBlock (before ++ text ++ after) = codeBlock text := by
  rw [codeBlock, codeBlock, List.append_assoc, afterFence_append hBefore, afterFence_append_right hAfter]
  cases afterFence text with
  | none => rfl
  | some rest => simp [beforeFence_append_right hAfter]

theorem beforeFence_eq_some {block : List Char} (h : beforeFence text = some block) :
    ∃ more, text = block ++ fence ++ more := by
  induction text generalizing block with
  | nil => cases h
  | cons c text ih =>
    rw [beforeFence] at h
    split at h
    · rename_i hPrefix
      obtain ⟨tail, hTail⟩ := List.isPrefixOf_iff_prefix.mp hPrefix
      obtain rfl := Option.some.inj h
      exact ⟨tail, hTail.symm⟩
    · obtain ⟨block, hBlock, rfl⟩ := Option.map_eq_some_iff.mp h
      obtain ⟨more, rfl⟩ := ih hBlock
      exact ⟨more, rfl⟩

theorem beforeFence_eq_none_iff : beforeFence text = none ↔ ¬fence <:+: text := by
  induction text with
  | nil =>
    simp only [beforeFence, true_iff]
    intro hInfix
    exact absurd (List.infix_nil.mp hInfix) (by decide)
  | cons c text ih =>
    rw [beforeFence, List.infix_cons_iff, ← List.isPrefixOf_iff_prefix]
    split
    · rename_i hPrefix
      simp [hPrefix]
    · rename_i hPrefix
      simp [hPrefix, ih]

theorem beforeFence_extend {block : List Char} (h : beforeFence text = some block) :
    beforeFence (text ++ rest) = some block := by
  induction text generalizing block with
  | nil => cases h
  | cons c text ih =>
    rw [beforeFence] at h
    rw [List.cons_append, beforeFence]
    split at h
    · rename_i hPrefix
      have hLonger : fence <+: c :: (text ++ rest) :=
        (List.isPrefixOf_iff_prefix.mp hPrefix).trans (List.prefix_append (c :: text) rest)
      rw [if_pos (List.isPrefixOf_iff_prefix.mpr hLonger)]
      exact h
    · rename_i hPrefix
      obtain ⟨block, hBlock, rfl⟩ := Option.map_eq_some_iff.mp h
      have hNot : ¬fence.isPrefixOf (c :: (text ++ rest)) = true := by
        intro hLonger
        obtain hText | hFence := List.prefix_or_prefix_of_prefix (List.isPrefixOf_iff_prefix.mp hLonger)
          (List.prefix_append (c :: text) rest)
        · exact hPrefix (List.isPrefixOf_iff_prefix.mpr hText)
        · obtain ⟨more, rfl⟩ := beforeFence_eq_some hBlock
          have hLength := hFence.length_le
          simp only [List.length_cons, List.length_append] at hLength
          have hThree : fence.length = 3 := rfl
          omega
      rw [if_neg hNot, ih hBlock, Option.map_some]

theorem beforeFence_of_last (hNone : beforeFence text = none) (hLast : ∀ c ∈ text.getLast?, c ≠ backtick) :
    beforeFence (text ++ (fence ++ rest)) = some text := by
  induction text with
  | nil => rfl
  | cons c text ih =>
    rw [beforeFence] at hNone
    rw [List.cons_append, beforeFence]
    split at hNone
    · cases hNone
    · rename_i hPrefix
      have hNot : ¬fence.isPrefixOf (c :: (text ++ (fence ++ rest))) = true := by
        intro hLonger
        obtain hText | hFence := List.prefix_or_prefix_of_prefix (List.isPrefixOf_iff_prefix.mp hLonger)
          (List.prefix_append (c :: text) (fence ++ rest))
        · exact hPrefix (List.isPrefixOf_iff_prefix.mpr hText)
        · have hMem := hFence.subset (List.getLast_mem (List.cons_ne_nil c text))
          rw [fence_eq] at hMem
          exact hLast _ (List.getLast?_eq_getLast_of_ne_nil (List.cons_ne_nil c text)) (List.eq_of_mem_replicate hMem)
      rw [if_neg hNot, ih (Option.map_eq_none_iff.mp hNone), Option.map_some]
      intro last hMem
      apply hLast
      cases text with
      | nil => cases hMem
      | cons first text => rwa [List.getLast?_cons_cons]

/-! ## Extraction -/

theorem closingText_prefix {scan : Scan} (h : closingText kind scan text = some body) : body <+: text ∧ body ≠ [] := by
  induction text generalizing scan body with
  | nil => cases h
  | cons c text ih =>
    rw [closingText] at h
    split at h
    · obtain rfl := Option.some.inj h
      exact ⟨List.prefix_cons_inj c |>.mpr List.nil_prefix, List.cons_ne_nil _ _⟩
    · obtain ⟨body, hBody, rfl⟩ := Option.map_eq_some_iff.mp h
      exact ⟨List.prefix_cons_inj c |>.mpr (ih hBody).1, List.cons_ne_nil _ _⟩

theorem dropWhile_opening (hBefore : kind.opening ∉ before) (hOpens : body.head? = some kind.opening) :
    (before ++ (body ++ after)).dropWhile (· ≠ kind.opening) = body ++ after := by
  have hOther : ∀ c ∈ before, decide (c ≠ kind.opening) = true := by
    intro c hc
    apply decide_eq_true
    rintro rfl
    exact hBefore hc
  rw [List.dropWhile_append_of_pos hOther]
  cases body with
  | nil => cases hOpens
  | cons c body =>
    obtain rfl := Option.some.inj hOpens
    rw [List.cons_append, List.dropWhile_cons_of_neg (by simp)]

theorem extractJson_body (hBody : Body kind body value) (hBefore : kind.opening ∉ before) :
    extractJson kind (before ++ (body ++ after)) = some value := by
  rw [extractJson]
  simp only [dropWhile_opening hBefore hBody.opens]
  rw [if_neg, hBody.scanned, Option.bind_some, hBody.parsed]
  intro hNil
  obtain ⟨rfl, -⟩ := List.append_eq_nil_iff.mp hNil
  cases hBody.opens

theorem extractJson_iff : extractJson kind text = some value ↔
    ∃ before body after, text = before ++ (body ++ after) ∧ kind.opening ∉ before ∧ Body kind body value := by
  constructor
  · intro h
    rw [extractJson] at h
    split at h
    · cases h
    · rename_i hFound
      obtain ⟨body, hScanned, hParsed⟩ := Option.bind_eq_some_iff.mp h
      obtain ⟨⟨after, hAfter⟩, hSome⟩ := closingText_prefix hScanned
      have hSplit : text = text.takeWhile (· ≠ kind.opening) ++ (body ++ after) := by
        rw [hAfter, List.takeWhile_append_dropWhile]
      refine ⟨_, body, after, hSplit, fun hMem => ?_, ?_⟩
      · simpa using List.mem_takeWhile_imp hMem
      · have hHead : body.head? = some kind.opening := by
          cases body with
          | nil => exact absurd rfl hSome
          | cons c body =>
            have hNot := List.head?_dropWhile_not (fun c => decide (c ≠ kind.opening)) text
            rw [← hAfter] at hNot
            simpa using hNot
        obtain ⟨hLoads, other, hOther⟩ := tryParseJson_iff.mp hParsed
        obtain ⟨front, own, back, rfl, hFront, hBack, hOwn⟩ := body_of_loads hLoads hOther
        have hNoFront : front = [] := by
          cases front with
          | nil => rfl
          | cons c front =>
            obtain rfl := Option.some.inj hHead
            have hSpace := isSpace_of_blank (hFront _ List.mem_cons_self)
            rw [opening_not_space] at hSpace
            cases hSpace
        obtain rfl : other = kind := by
          rw [hNoFront, List.nil_append, List.head?_append, hOwn.opens] at hHead
          exact opening_injective (Option.some.inj hHead)
        have hSame : some own = some (front ++ own ++ back) := by
          rw [← hScanned, ← hAfter, hNoFront, List.nil_append, List.append_assoc, hOwn.scanned]
        rw [← Option.some.inj hSame]
        exact hOwn
  · rintro ⟨before, body, after, rfl, hBefore, hBody⟩
    exact extractJson_body hBody hBefore

theorem found_between {own : List Char} {front back : List Char} (hFront : kind.opening ∉ front)
    (hBack : kind.closing ∉ back) (hBody : Body kind own value) (hBefore : kind.opening ∉ before)
    (hEq : front ++ (body ++ back) = before ++ (own ++ after)) :
    ∃ before after, body = before ++ (own ++ after) ∧ kind.opening ∉ before := by
  have hInner : ∃ before', body ++ back = before' ++ (own ++ after) ∧ kind.opening ∉ before' := by
    obtain ⟨middle, rfl, hRest⟩ | ⟨middle, rfl, hRest⟩ := List.append_eq_append_iff.mp hEq
    · exact ⟨middle, hRest, fun hMem => hBefore (List.mem_append_right _ hMem)⟩
    · cases middle with
      | nil => exact ⟨[], hRest.symm, List.not_mem_nil⟩
      | cons c middle =>
        have hHead := congrArg List.head? hRest
        rw [List.head?_append, hBody.opens] at hHead
        obtain rfl := Option.some.inj hHead
        simp at hFront
  obtain ⟨before', hInner, hBefore'⟩ := hInner
  rw [← List.append_assoc] at hInner
  obtain ⟨middle, hOwn, rfl⟩ | ⟨middle, rfl, hRest⟩ := List.append_eq_append_iff.mp hInner
  · obtain rfl | ⟨middle, c, rfl⟩ := List.eq_nil_or_concat' middle
    · rw [List.append_nil] at hOwn
      exact ⟨before', [], by rw [← hOwn, List.append_nil], hBefore'⟩
    · have hLast := congrArg List.getLast? hOwn
      rw [List.getLast?_append, hBody.closes, ← List.append_assoc, List.getLast?_concat] at hLast
      obtain rfl := Option.some.inj hLast
      simp at hBack
  · exact ⟨before', middle, List.append_assoc _ _ _, hBefore'⟩

theorem opensObject_iff : OpensObject text ↔
    ∃ before body after value, text = before ++ (body ++ after) ∧ Kind.object.opening ∉ before ∧
      Body .object body value := by
  constructor
  · rintro ⟨before, object, after, value, rfl, hBefore, hOpens, hLoads, hKind⟩
    obtain ⟨front, body, back, rfl, hFront, -, hBody⟩ := body_of_loads hLoads hKind
    have hNoFront : front = [] := by
      cases front with
      | nil => rfl
      | cons c front =>
        obtain rfl := Option.some.inj hOpens
        have hSpace := isSpace_of_blank (hFront _ List.mem_cons_self)
        rw [opening_not_space] at hSpace
        cases hSpace
    refine ⟨before, body, back ++ after, value, ?_, hBefore, hBody⟩
    rw [hNoFront]
    simp
  · rintro ⟨before, body, after, value, rfl, hBefore, hBody⟩
    exact ⟨before, body, after, value, (List.append_assoc _ _ _).symm, hBefore, hBody.opens, hBody.reads, hBody.isKind⟩

theorem opensObject_between {front back : List Char} (hFront : ∀ c ∈ front, Plain c) (hBack : ∀ c ∈ back, Plain c) :
    OpensObject (front ++ (text ++ back)) ↔ OpensObject text := by
  have hOpening : Kind.object.opening ∉ front := fun hMem => hFront _ hMem (by decide)
  have hClosing : Kind.object.closing ∉ back := fun hMem => hBack _ hMem (by decide)
  rw [opensObject_iff, opensObject_iff]
  constructor
  · rintro ⟨before, body, after, value, hEq, hBefore, hBody⟩
    obtain ⟨before', after', hText, hBefore'⟩ := found_between hOpening hClosing hBody hBefore hEq
    exact ⟨before', body, after', value, hText, hBefore', hBody⟩
  · rintro ⟨before, body, after, value, rfl, hBefore, hBody⟩
    refine ⟨front ++ before, body, after ++ back, value, by simp, fun hMem => ?_, hBody⟩
    exact (List.mem_append.mp hMem).elim hOpening hBefore

/-! ## The attempts -/

theorem extract_iff {front back : List Char} (hBody : Body kind body value) (hFront : ∀ c ∈ front, Plain c)
    (hBack : ∀ c ∈ back, Plain c) (other : Value) :
    (extractJsonObject (front ++ (body ++ back)) <|> extractJsonArray (front ++ (body ++ back))).getD other = value ↔
      kind = .object ∨ ¬OpensObject body := by
  have hOpening (kind : Kind) : kind.opening ∉ front := by
    intro hMem
    exact hFront _ hMem (by cases kind <;> decide)
  have hObject : OpensObject body ↔ ∃ value, extractJsonObject (front ++ (body ++ back)) = some value := by
    rw [← opensObject_between hFront hBack, opensObject_iff]
    constructor
    · rintro ⟨before, own, after, value, hEq, hBefore, hOwn⟩
      exact ⟨value, extractJson_iff.mpr ⟨before, own, after, hEq, hBefore, hOwn⟩⟩
    · rintro ⟨value, hFound⟩
      obtain ⟨before, own, after, hEq, hBefore, hOwn⟩ := extractJson_iff.mp hFound
      exact ⟨before, own, after, value, hEq, hBefore, hOwn⟩
  cases kind with
  | object =>
    have hFound : extractJsonObject (front ++ (body ++ back)) = some value := extractJson_body hBody (hOpening .object)
    simp [hFound]
  | array =>
    have hFound : extractJsonArray (front ++ (body ++ back)) = some value := extractJson_body hBody (hOpening .array)
    rw [hObject, hFound]
    cases hBrace : extractJsonObject (front ++ (body ++ back)) with
    | none => simp
    | some object =>
      obtain ⟨_, _, _, _, _, hOwn⟩ := extractJson_iff.mp hBrace
      have hNe : object ≠ value := by
        rintro rfl
        cases hOwn.isKind.symm.trans hBody.isKind
      simpa using hNe

theorem plain_head_not_parsed {front : List Char} (hFront : ∀ c ∈ front, Plain c) (hSome : front ≠ [])
    (hHead : ∀ c ∈ front.head?, Text.isSpace c = false) : tryParseJson (front ++ text) = none := by
  cases front with
  | nil => exact absurd rfl hSome
  | cons c front =>
    rw [Option.eq_none_iff_forall_ne_some]
    intro value hParsed
    obtain ⟨hLoads, kind, hKind⟩ := tryParseJson_iff.mp hParsed
    obtain ⟨blanks, body, back, hEq, hBlanks, -, hBody⟩ := body_of_loads hLoads hKind
    rw [List.cons_append, List.append_assoc] at hEq
    cases blanks with
    | nil =>
      have hOpens := congrArg List.head? hEq
      rw [List.nil_append, List.head?_append, hBody.opens] at hOpens
      obtain rfl := Option.some.inj hOpens
      exact hFront _ List.mem_cons_self (by cases kind <;> decide)
    | cons first blanks =>
      obtain ⟨rfl, -⟩ := List.cons.inj hEq
      have hSpace := isSpace_of_blank (hBlanks c List.mem_cons_self)
      rw [hHead c rfl] at hSpace
      cases hSpace

theorem body_and_more_not_parsed (hBody : Body kind body value) (hSome : after ≠ [])
    (hLast : ∀ c ∈ after.getLast?, Text.isSpace c = false) : tryParseJson (body ++ after) = none := by
  rw [Option.eq_none_iff_forall_ne_some]
  intro other hParsed
  obtain ⟨kind', hOther⟩ := body_of_stripped hParsed (by
    intro c hHead
    rw [List.head?_append, hBody.opens] at hHead
    obtain rfl := Option.some.inj hHead
    exact opening_not_space kind) (by
    intro c hEnd
    obtain ⟨front, last, rfl⟩ := (List.eq_nil_or_concat' after).resolve_left hSome
    rw [← List.append_assoc, List.getLast?_concat] at hEnd
    exact hLast c (by rw [List.getLast?_concat]; exact hEnd))
  obtain ⟨hSame, -, -⟩ := hBody.unique hOther (List.append_nil (body ++ after)).symm
  exact hSome (List.append_right_eq_self.mp hSame.symm)

theorem Body.strip_between (hBody : Body kind body value) (before after : List Char) :
    Text.stripChars (before ++ body ++ after) =
      before.dropWhile Text.isSpace ++ body ++ after.rdropWhile Text.isSpace :=
  strip_append hBody.opens (opening_not_space kind) hBody.closes (closing_not_space kind)

theorem plain_of_space (h : Text.isSpace c = true) : Plain c := plain_of (by decide) h

theorem ne_backtick_of_space (h : Text.isSpace c = true) : c ≠ backtick := by
  rintro rfl
  cases h

theorem Spaces.prose (h : Spaces text) : Prose text :=
  fun c hc => ⟨plain_of_space (h c hc), ne_backtick_of_space (h c hc)⟩

theorem Prose.append (hText : Prose text) (hRest : Prose rest) : Prose (text ++ rest) := by
  intro c hc
  exact (List.mem_append.mp hc).elim (hText c) (hRest c)

theorem Prose.plain (h : Prose text) : ∀ c ∈ text, Plain c := fun c hc => (h c hc).1

theorem Prose.noBacktick (h : Prose text) : NoBacktick text := fun c hc => (h c hc).2

theorem Prose.dropSpaces (h : Prose text) : Prose (text.dropWhile Text.isSpace) :=
  fun c hc => h c ((List.dropWhile_suffix _).subset hc)

theorem Prose.rdropSpaces (h : Prose text) : Prose (text.rdropWhile Text.isSpace) :=
  fun c hc => h c ((List.rdropWhile_prefix _ _).subset hc)

theorem parseLlmJson_eq (raw : List Char) (hSome : Text.stripChars raw ≠ []) : parseLlmJson raw =
    (tryParseJson (Text.stripChars raw) <|> (codeBlock (Text.stripChars raw)).bind tryParseJson <|>
      extractJsonObject (Text.stripChars raw) <|> extractJsonArray (Text.stripChars raw)).getD
        (.obj [(codes "raw", .str (raw.map Char.toNat))]) := by
  rw [parseLlmJson]
  exact if_neg hSome

theorem parse_of_extraction {front back raw : List Char} (hBody : Body kind body value)
    (hFront : ∀ c ∈ front, Plain c)
    (hBack : ∀ c ∈ back, Plain c) (hStrip : Text.stripChars raw = front ++ (body ++ back))
    (hWhole : tryParseJson (Text.stripChars raw) = none)
    (hBlock : (codeBlock (Text.stripChars raw)).bind tryParseJson = none) :
    parseLlmJson raw = value ↔ kind = .object ∨ ¬OpensObject body := by
  have hSome : Text.stripChars raw ≠ [] := by
    rw [hStrip]
    intro hNil
    obtain ⟨-, hRest⟩ := List.append_eq_nil_iff.mp hNil
    obtain ⟨rfl, -⟩ := List.append_eq_nil_iff.mp hRest
    cases hBody.opens
  rw [parseLlmJson_eq raw hSome, hWhole, hBlock, hStrip]
  exact extract_iff hBody hFront hBack _

theorem parse_of_block {raw : List Char} {other : Value} (hWhole : tryParseJson (Text.stripChars raw) = none)
    (hBlock : (codeBlock (Text.stripChars raw)).bind tryParseJson = some other) : parseLlmJson raw = other := by
  have hSome : Text.stripChars raw ≠ [] := by
    intro hNil
    rw [hNil] at hBlock
    cases hBlock
  rw [parseLlmJson_eq raw hSome, hWhole, hBlock]
  rfl

/-! ## Between prose -/

theorem fencedIn_iff : FencedIn text value ↔ (codeBlock text).bind tryParseJson = some value :=
  Option.bind_eq_some_iff.symm

def Recovered (kind : Kind) (text : List Char) (value : Value) : Prop :=
  (∀ other, FencedIn text other → other = value) ∧ (FencedIn text value ∨ kind = .object ∨ ¬OpensObject text)

theorem parse_between (hBody : Body kind body value) (hBefore : Prose before) (hAfter : Prose after) :
    parseLlmJson (before ++ body ++ after) = value ↔ (Spaces before ∧ Spaces after) ∨ Recovered kind body value := by
  have hStrip := hBody.strip_between before after
  have hFront : Spaces before ↔ before.dropWhile Text.isSpace = [] := List.dropWhile_eq_nil_iff.symm
  have hBack : Spaces after ↔ after.rdropWhile Text.isSpace = [] := List.rdropWhile_eq_nil_iff.symm
  rw [hFront, hBack]
  by_cases hBare : before.dropWhile Text.isSpace = [] ∧ after.rdropWhile Text.isSpace = []
  · rw [hBare.1, hBare.2, List.nil_append, List.append_nil] at hStrip
    have hSome : Text.stripChars (before ++ body ++ after) ≠ [] := by
      rw [hStrip]
      rintro rfl
      cases hBody.opens
    have hParsed : parseLlmJson (before ++ body ++ after) = value := by
      rw [parseLlmJson_eq _ hSome, hStrip, hBody.parsed]
      rfl
    exact iff_of_true hParsed (.inl hBare)
  · have hWhole : tryParseJson (Text.stripChars (before ++ body ++ after)) = none := by
      rw [hStrip, List.append_assoc]
      obtain hNil | hSome := eq_or_ne (before.dropWhile Text.isSpace) []
      · rw [hNil, List.nil_append]
        exact body_and_more_not_parsed hBody (fun hRest => hBare ⟨hNil, hRest⟩) getLast_rdropWhile_spaces
      · exact plain_head_not_parsed hBefore.dropSpaces.plain hSome head_dropWhile_spaces
    have hSame : codeBlock (Text.stripChars (before ++ body ++ after)) = codeBlock body := by
      rw [hStrip]
      exact codeBlock_append hBefore.dropSpaces.noBacktick hAfter.rdropSpaces.noBacktick
    rw [or_iff_right hBare, Recovered]
    simp only [fencedIn_iff]
    cases hBlock : (codeBlock body).bind tryParseJson with
    | some other =>
      rw [parse_of_block hWhole (hSame ▸ hBlock)]
      simp
      grind
    | none =>
      rw [parse_of_extraction hBody hBefore.dropSpaces.plain hAfter.rdropSpaces.plain
        (hStrip.trans (List.append_assoc _ _ _)) hWhole (hSame ▸ hBlock)]
      simp

/-! ## Between fences -/

theorem dropTag_tag (rest : List Char) : dropTag ("json".toList ++ rest) = rest := by
  rw [dropTag, if_pos (List.isPrefixOf_iff_prefix.mpr (List.prefix_append _ _))]
  rfl

theorem dropTag_of_head (h : ∀ c ∈ text.head?, c ≠ 'j') : dropTag text = text := by
  rw [dropTag, if_neg]
  intro hPrefix
  obtain ⟨tail, rfl⟩ := List.isPrefixOf_iff_prefix.mp hPrefix
  exact h 'j' rfl rfl

theorem body_of_spaces {front front' back own : List Char} (back' : List Char) {kind' : Kind} {value' : Value}
    (hBody : Body kind body value) (hOwn : Body kind' own value') (hFront : Spaces front) (hFront' : Spaces front')
    (hEq : front ++ (body ++ back) = front' ++ (own ++ back')) : body = own ∧ back = back' := by
  have hStop : ∀ {kind : Kind} {front body back : List Char} {value : Value}, Body kind body value → Spaces front →
      (front ++ (body ++ back)).dropWhile Text.isSpace = body ++ back := by
    intro kind front body back value hBody hFront
    rw [dropWhile_append_stop (c := kind.opening) (by rw [List.head?_append, hBody.opens]; rfl)
      (opening_not_space kind), List.dropWhile_eq_nil_iff.mpr hFront, List.nil_append]
  have hRest := congrArg (List.dropWhile Text.isSpace) hEq
  rw [hStop hBody hFront, hStop hOwn hFront'] at hRest
  obtain ⟨rfl, -, -⟩ := hBody.unique hOwn hRest
  exact ⟨rfl, List.append_cancel_left hRest⟩

theorem cut_not_parsed {front back block more : List Char} (hBody : Body kind body value) (hFront : Spaces front)
    (hBack : Spaces back) (hCut : front ++ (body ++ back) = block ++ fence ++ more) :
    tryParseJson (Text.stripChars block) = none := by
  rw [Option.eq_none_iff_forall_ne_some]
  intro other hParsed
  obtain ⟨hLoads, kind', hKind⟩ := tryParseJson_iff.mp hParsed
  obtain ⟨blanks, own, blanks', hOwn, hBlanks, -, hOwnBody⟩ := body_of_loads hLoads hKind
  obtain ⟨trail, hTrail⟩ := List.rdropWhile_prefix Text.isSpace (block.dropWhile Text.isSpace)
  have hBlock : block = (block.takeWhile Text.isSpace ++ blanks) ++ (own ++ (blanks' ++ trail)) := by
    change Text.stripChars block ++ trail = _ at hTrail
    rw [hOwn] at hTrail
    simpa [← hTrail] using (List.takeWhile_append_dropWhile (p := Text.isSpace) (l := block)).symm
  have hSpaces : Spaces (block.takeWhile Text.isSpace ++ blanks) := by
    intro c hc
    exact (List.mem_append.mp hc).elim List.mem_takeWhile_imp fun hMem => isSpace_of_blank (hBlanks c hMem)
  rw [hBlock] at hCut
  obtain ⟨-, hRest⟩ := body_of_spaces (blanks' ++ trail ++ fence ++ more) hBody hOwnBody hFront hSpaces
    (by simpa using hCut)
  have hMem : backtick ∈ back := by
    rw [hRest, fence_eq]
    simp
  exact ne_backtick_of_space (hBack _ hMem) rfl

theorem fence_infix_between {front back : List Char} (hFront : NoBacktick front) (hBack : NoBacktick back) :
    fence <:+: front ++ (text ++ back) ↔ fence <:+: text := by
  rw [← not_iff_not, ← beforeFence_eq_none_iff, ← beforeFence_eq_none_iff, beforeFence_append hFront,
    beforeFence_append_right hBack, Option.map_eq_none_iff]

theorem head_ne_tag {front : List Char} (hBody : Body kind body value) (hFront : Spaces front) (rest : List Char) :
    ∀ c ∈ (front ++ (body ++ rest)).head?, c ≠ 'j' := by
  rintro c hHead rfl
  cases front with
  | nil =>
    rw [List.nil_append, List.head?_append, hBody.opens] at hHead
    cases kind <;> exact absurd (Option.some.inj hHead) (by decide)
  | cons first front =>
    obtain rfl := Option.some.inj hHead
    exact absurd (hFront 'j' List.mem_cons_self) (by decide)

theorem last_ne_backtick {back : List Char} (before : List Char) (hBody : Body kind body value) (hBack : Spaces back) :
    ∀ c ∈ (before ++ (body ++ back)).getLast?, c ≠ backtick := by
  rintro c hLast rfl
  obtain rfl | ⟨back, last, rfl⟩ := List.eq_nil_or_concat' back
  · rw [List.append_nil, List.getLast?_append, hBody.closes] at hLast
    cases kind <;> exact absurd (Option.some.inj hLast) (by decide)
  · rw [← List.append_assoc, ← List.append_assoc, List.getLast?_concat] at hLast
    obtain rfl := Option.some.inj hLast
    exact ne_backtick_of_space (hBack backtick (by simp)) rfl

theorem parse_fenced {tag front back : List Char} (hBody : Body kind body value) (hBefore : Prose before)
    (hAfter : Prose after) (hTag : tag = [] ∨ tag = "json".toList) (hFront : Spaces front) (hBack : Spaces back) :
    parseLlmJson (before ++ (fence ++ (tag ++ (front ++ (body ++ back))) ++ fence) ++ after) = value ↔
      ¬fence <:+: body ∨ kind = .object ∨ ¬OpensObject body := by
  have hTagProse : Prose tag := by
    obtain rfl | rfl := hTag
    · exact nofun
    · exact Text.forall_of_all (by decide)
  have hStrip : Text.stripChars (before ++ (fence ++ (tag ++ (front ++ (body ++ back))) ++ fence) ++ after) =
      (before.dropWhile Text.isSpace ++ fence) ++
        ((tag ++ (front ++ (body ++ back))) ++ (fence ++ after.rdropWhile Text.isSpace)) := by
    have hHead : (fence ++ (tag ++ (front ++ (body ++ back))) ++ fence).head? = some backtick := rfl
    have hLast : (fence ++ (tag ++ (front ++ (body ++ back))) ++ fence).getLast? = some backtick := by
      rw [List.getLast?_append]
      rfl
    rw [strip_append hHead rfl hLast rfl]
    simp only [List.append_assoc]
  generalize hRaw : before ++ (fence ++ (tag ++ (front ++ (body ++ back))) ++ fence) ++ after = raw at hStrip ⊢
  have hWhole : tryParseJson (Text.stripChars raw) = none := by
    rw [hStrip]
    apply plain_head_not_parsed
    · intro c hc
      obtain hMem | hMem := List.mem_append.mp hc
      · exact hBefore.dropSpaces.plain c hMem
      · rw [fence_eq] at hMem
        rw [List.eq_of_mem_replicate hMem]
        decide
    · exact List.append_ne_nil_of_right_ne_nil _ (by decide)
    · intro c hHead
      cases hFirst : before.dropWhile Text.isSpace with
      | nil =>
        rw [hFirst] at hHead
        obtain rfl := Option.some.inj hHead
        rfl
      | cons first rest =>
        have hOwn : c ∈ (before.dropWhile Text.isSpace).head? := by
          rw [hFirst] at hHead ⊢
          exact hHead
        exact head_dropWhile_spaces c hOwn
  have hAfterFence : afterFence (Text.stripChars raw) =
      some ((tag ++ (front ++ (body ++ back))) ++ (fence ++ after.rdropWhile Text.isSpace)) := by
    rw [hStrip, List.append_assoc, afterFence_append hBefore.dropSpaces.noBacktick]
    rfl
  have hCut : beforeFence (tag ++ (front ++ (body ++ back))) = (beforeFence (front ++ (body ++ back))).map (tag ++ ·) :=
    beforeFence_append hTagProse.noBacktick _
  have hTagged : ∀ {block : List Char}, (∀ c ∈ block.head?, c ≠ 'j') → dropTag (tag ++ block) = block := by
    intro block hHead
    obtain rfl | rfl := hTag
    · exact dropTag_of_head hHead
    · exact dropTag_tag block
  rw [← fence_infix_between hFront.prose.noBacktick hBack.prose.noBacktick, ← beforeFence_eq_none_iff]
  cases hInner : beforeFence (front ++ (body ++ back)) with
  | none =>
    rw [hInner] at hCut
    have hLast := last_ne_backtick (tag ++ front) hBody hBack
    rw [List.append_assoc] at hLast
    have hBlock : (codeBlock (Text.stripChars raw)).bind tryParseJson = some value := by
      have hFound := hBody.strip_between front back
      rw [List.dropWhile_eq_nil_iff.mpr hFront, List.rdropWhile_eq_nil_iff.mpr hBack, List.nil_append, List.append_nil,
        List.append_assoc] at hFound
      rw [codeBlock, hAfterFence, Option.bind_some, beforeFence_of_last hCut hLast, Option.map_some, Option.bind_some,
        hTagged (head_ne_tag hBody hFront back), hFound, hBody.parsed]
    rw [parse_of_block hWhole hBlock]
    simp
  | some block =>
    rw [hInner] at hCut
    obtain ⟨more, hMore⟩ := beforeFence_eq_some hInner
    have hHead : ∀ c ∈ block.head?, c ≠ 'j' := by
      intro c hc
      apply head_ne_tag hBody hFront back c
      rw [hMore, List.append_assoc, List.head?_append, Option.mem_def.mp hc]
      rfl
    have hBlock : (codeBlock (Text.stripChars raw)).bind tryParseJson = none := by
      rw [codeBlock, hAfterFence, Option.bind_some, beforeFence_extend hCut, Option.map_some, Option.bind_some,
        hTagged hHead, cut_not_parsed hBody hFront hBack hMore]
    have hSplit : Text.stripChars raw = (before.dropWhile Text.isSpace ++ fence ++ tag ++ front) ++
        (body ++ (back ++ (fence ++ after.rdropWhile Text.isSpace))) := by
      rw [hStrip]
      simp only [List.append_assoc]
    have hFence : ∀ c ∈ fence, Plain c := Text.forall_of_all (by decide)
    rw [parse_of_extraction hBody _ _ hSplit hWhole hBlock]
    · simp
    · intro c hc
      simp only [List.mem_append] at hc
      obtain ((hc | hc) | hc) | hc := hc
      · exact hBefore.dropSpaces.plain c hc
      · exact hFence c hc
      · exact hTagProse.plain c hc
      · exact hFront.prose.plain c hc
    · intro c hc
      simp only [List.mem_append] at hc
      obtain hc | hc | hc := hc
      · exact hBack.prose.plain c hc
      · exact hFence c hc
      · exact hAfter.rdropSpaces.plain c hc

/-! ## The claim of the parser -/

end Texts

/-! ## An array of objects -/

end FastVoice.GenAi
