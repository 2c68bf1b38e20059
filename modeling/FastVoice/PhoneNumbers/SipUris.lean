import FastVoice.PhoneNumbers.Address

/-! # Reading SIP URIs

An address that is read is the text that its parts write, and the parts that can be read are read off it again. Lowering
a text leaves its delimiters, digits and spaces where they are, so that it is read before exactly if it is afterwards.
-/
namespace FastVoice.PhoneNumbers

/-! ## Texts and their images -/

section

variable {unicode : Unicode} {text out : List Char}

def Fixed (unicode : Unicode) (c : Char) : Prop :=
  Text.isSpace c = true ∨ unicode.isDecimal c = true ∨ c ∈ "+-():;?@".toList

inductive Lowers (unicode : Unicode) : List Char → List Char → Prop where
  | nil : Lowers unicode [] []
  | cons {c : Char} {image text out : List Char} (h : Lowered unicode.isDecimal c image) :
      Lowers unicode text out → Lowers unicode (c :: text) (image ++ out)

theorem lowers_lower (unicode : Unicode) (text : List Char) : Lowers unicode text (unicode.lower text) := by
  obtain ⟨images, hLower, hImages⟩ := unicode.images text
  rw [hLower]
  clear hLower
  induction hImages with
  | nil => exact .nil
  | cons hImage _ ih => exact .cons hImage ih

theorem toLower_of_fixed {c : Char} (h : Fixed unicode c) : c.toLower = c := by
  have hAll : ∀ n < 128, (Char.ofNat n).isUpper = true → Text.isSpace (Char.ofNat n) = false ∧
      (Char.ofNat n).isDigit = false ∧ Char.ofNat n ∉ "+-():;?@".toList := by decide +kernel
  refine toLower_of_not_isUpper (Bool.eq_false_iff.mpr fun hUpper => ?_)
  have hAscii := toNat_lt_of_isUpper hUpper
  have hHere := hAll c.toNat hAscii
  rw [Char.ofNat_toNat] at hHere
  obtain ⟨hSpace, hDigit, hDelimiter⟩ := hHere hUpper
  rcases h with h | h | h
  · rw [hSpace] at h
    nomatch h
  · rw [unicode.decimal_ascii c hAscii, hDigit] at h
    nomatch h
  · exact hDelimiter h

theorem toNat_lt_of_delimiter {c : Char} (h : c ∈ "+-():;?@".toList) : c.toNat < 128 := by
  have hAll : ∀ c ∈ "+-():;?@".toList, c.toNat < 128 := Text.forall_of_all (by decide)
  exact hAll c h

theorem Lowered.of_fixed {c : Char} {image : List Char} (h : Lowered unicode.isDecimal c image)
    (hFixed : Fixed unicode c) : image = [c] := by
  rw [Lowered, if_pos] at h
  · rw [h, toLower_of_fixed hFixed]
  · exact hFixed.imp_right (Or.imp_right toNat_lt_of_delimiter)

theorem isAlpha_cases {c : Char} (hAlpha : c.isAlpha = true) : Text.isSpace c = false ∧ c.isDigit = false ∧
    c ∉ "+-():;?@".toList := by
  have hAll : ∀ n < 128, (Char.ofNat n).isAlpha = true → Text.isSpace (Char.ofNat n) = false ∧
      (Char.ofNat n).isDigit = false ∧ Char.ofNat n ∉ "+-():;?@".toList := by decide +kernel
  have hAscii : c.toNat < 128 := by
    change (c.isUpper || c.isLower) = true at hAlpha
    rcases Bool.or_eq_true_iff.mp hAlpha with hUpper | hLower
    · exact toNat_lt_of_isUpper hUpper
    · change (decide (c.val ≥ 'a'.val) && decide (c.val ≤ 'z'.val)) = true at hLower
      rw [Bool.and_eq_true, decide_eq_true_eq, decide_eq_true_eq] at hLower
      exact Nat.lt_of_le_of_lt (UInt32.le_iff_toNat_le.mp hLower.2) (by decide)
  have hHere := hAll c.toNat hAscii
  rw [Char.ofNat_toNat] at hHere
  exact hHere hAlpha

theorem toLower_not_fixed {c : Char} (hAscii : c.toNat < 128) (h : ¬Fixed unicode c) : ¬Fixed unicode c.toLower := by
  have hAll : ∀ n < 128, ¬(Text.isSpace (Char.ofNat n) = true ∨ (Char.ofNat n).isDigit = true ∨
      Char.ofNat n ∈ "+-():;?@".toList) → (Char.ofNat n).toLower.toNat < 128 ∧
      ¬(Text.isSpace (Char.ofNat n).toLower = true ∨ (Char.ofNat n).toLower.isDigit = true ∨
        (Char.ofNat n).toLower ∈ "+-():;?@".toList) := by decide +kernel
  have hHere := hAll c.toNat hAscii
  rw [Char.ofNat_toNat] at hHere
  rw [Fixed, unicode.decimal_ascii c hAscii] at h
  obtain ⟨hLower, hNot⟩ := hHere h
  rwa [Fixed, unicode.decimal_ascii _ hLower]

theorem Lowered.of_not_fixed {c : Char} {image : List Char} (h : Lowered unicode.isDecimal c image)
    (hFixed : ¬Fixed unicode c) : image ≠ [] ∧ ∀ d ∈ image, ¬Fixed unicode d := by
  rw [Lowered] at h
  split at h
  · rename_i hKind
    have hAscii : c.toNat < 128 := by
      rcases hKind with hSpace | hDecimal | hAscii
      · exact absurd (.inl hSpace) hFixed
      · exact absurd (.inr (.inl hDecimal)) hFixed
      · exact hAscii
    rw [h]
    refine ⟨List.cons_ne_nil _ _, fun d hd => ?_⟩
    rw [List.mem_singleton.mp hd]
    exact toLower_not_fixed hAscii hFixed
  · refine ⟨h.1, fun d hd hFixedImage => ?_⟩
    obtain ⟨hSpace, hDecimal, hAlpha⟩ := h.2 d hd
    rcases hFixedImage with hBad | hBad | hBad
    · rw [hSpace] at hBad
      nomatch hBad
    · rw [hDecimal] at hBad
      nomatch hBad
    · exact (isAlpha_cases (hAlpha (toNat_lt_of_delimiter hBad))).2.2 hBad

namespace Lowers

theorem cons_fixed {c : Char} (hFixed : Fixed unicode c) (h : Lowers unicode text out) :
    Lowers unicode (c :: text) (c :: out) := by
  have hImage : Lowered unicode.isDecimal c [c] := by
    rw [Lowered, if_pos (hFixed.imp_right (Or.imp_right toNat_lt_of_delimiter)), toLower_of_fixed hFixed]
  exact .cons hImage h

theorem span {p : Char → Bool} {b : Bool} (hp : ∀ c, ¬Fixed unicode c → p c = b) (h : Lowers unicode text out) :
    Lowers unicode (text.takeWhile p) (out.takeWhile p) ∧ Lowers unicode (text.dropWhile p) (out.dropWhile p) := by
  induction h with
  | nil => exact ⟨.nil, .nil⟩
  | @cons c image text out hImage hRest ih =>
    by_cases hFixed : Fixed unicode c
    · rw [hImage.of_fixed hFixed, List.singleton_append]
      cases hHere : p c with
      | true =>
        rw [List.takeWhile_cons_of_pos hHere, List.takeWhile_cons_of_pos hHere, List.dropWhile_cons_of_pos hHere,
          List.dropWhile_cons_of_pos hHere]
        exact ⟨.cons_fixed hFixed ih.1, ih.2⟩
      | false =>
        have hNot : ¬p c = true := by rw [hHere]; nofun
        rw [List.takeWhile_cons_of_neg hNot, List.takeWhile_cons_of_neg hNot, List.dropWhile_cons_of_neg hNot,
          List.dropWhile_cons_of_neg hNot]
        exact ⟨.nil, .cons_fixed hFixed hRest⟩
    · obtain ⟨hNonempty, hOther⟩ := hImage.of_not_fixed hFixed
      cases b with
      | true =>
        have hAll : ∀ d ∈ image, p d = true := fun d hd => hp d (hOther d hd)
        rw [List.takeWhile_cons_of_pos (hp c hFixed), List.dropWhile_cons_of_pos (hp c hFixed),
          List.takeWhile_append_of_pos hAll, List.dropWhile_append_of_pos hAll]
        exact ⟨.cons hImage ih.1, ih.2⟩
      | false =>
        have hNot : ¬p c = true := by rw [hp c hFixed]; nofun
        obtain ⟨d, more, rfl⟩ := List.exists_cons_of_ne_nil hNonempty
        have hFirst : ¬p d = true := by rw [hp d (hOther d List.mem_cons_self)]; nofun
        rw [List.takeWhile_cons_of_neg hNot, List.dropWhile_cons_of_neg hNot, List.cons_append,
          List.takeWhile_cons_of_neg hFirst, List.dropWhile_cons_of_neg hFirst]
        exact ⟨.nil, .cons hImage hRest⟩

theorem eq_nil_iff (h : Lowers unicode text out) : out = [] ↔ text = [] := by
  cases h with
  | nil => exact Iff.rfl
  | @cons c image text out hImage _ =>
    have hNonempty : image ≠ [] := by
      by_cases hFixed : Fixed unicode c
      · rw [hImage.of_fixed hFixed]
        exact List.cons_ne_nil _ _
      · exact (hImage.of_not_fixed hFixed).1
    exact iff_of_false (fun hEmpty => hNonempty (List.append_eq_nil_iff.mp hEmpty).1) (List.cons_ne_nil _ _)

theorem head (h : Lowers unicode text out) {c : Char} {rest : List Char} (hFixed : Fixed unicode c)
    (hOut : out = c :: rest) : ∃ before, text = c :: before ∧ Lowers unicode before rest := by
  cases h with
  | nil => nomatch hOut
  | @cons d image text out hImage hRest =>
    by_cases hHere : Fixed unicode d
    · rw [hImage.of_fixed hHere] at hOut
      obtain ⟨rfl, rfl⟩ := List.cons.inj hOut
      exact ⟨_, rfl, hRest⟩
    · obtain ⟨hNonempty, hOther⟩ := hImage.of_not_fixed hHere
      obtain ⟨e, more, rfl⟩ := List.exists_cons_of_ne_nil hNonempty
      obtain ⟨rfl, -⟩ := List.cons.inj hOut
      exact absurd hFixed (hOther _ List.mem_cons_self)

theorem tail {c : Char} (hFixed : Fixed unicode c) (h : Lowers unicode (c :: text) out) :
    ∃ rest, out = c :: rest ∧ Lowers unicode text rest := by
  cases h with
  | cons hImage hRest =>
    rw [hImage.of_fixed hFixed]
    exact ⟨_, rfl, hRest⟩

theorem split {more : List Char} (h : Lowers unicode (text ++ more) out) :
    ∃ first second, out = first ++ second ∧ Lowers unicode text first ∧ Lowers unicode more second := by
  induction text generalizing out with
  | nil => exact ⟨[], out, rfl, .nil, h⟩
  | cons c text ih =>
    cases h with
    | cons hImage hRest =>
      obtain ⟨first, second, rfl, hFirst, hSecond⟩ := ih hRest
      exact ⟨_ ++ first, second, (List.append_assoc _ _ _).symm, .cons hImage hFirst, hSecond⟩

theorem eq_of_ascii (hAscii : ∀ c ∈ text, c.toNat < 128) (h : Lowers unicode text out) :
    out = text.map Char.toLower := by
  induction h with
  | nil => rfl
  | cons hImage _ ih =>
    obtain ⟨hFirst, hRest⟩ := List.forall_mem_cons.mp hAscii
    rw [Lowered, if_pos (.inr (.inr hFirst))] at hImage
    rw [hImage, ih hRest, List.map_cons, List.singleton_append]

theorem count (h : Lowers unicode text out) {c : Char} (hFixed : Fixed unicode c) : out.count c = text.count c := by
  induction h with
  | nil => rfl
  | @cons d image text out hImage _ ih =>
    rw [List.count_append, ih]
    by_cases hHere : Fixed unicode d
    · rw [hImage.of_fixed hHere, ← List.count_append, List.singleton_append]
    · have hNone : c ∉ image := fun hc => (hImage.of_not_fixed hHere).2 c hc hFixed
      have hOther : d ≠ c := fun hSame => hHere (hSame ▸ hFixed)
      rw [List.count_eq_zero.mpr hNone, List.count_cons_of_ne hOther, Nat.zero_add]

theorem mem_iff (h : Lowers unicode text out) {c : Char} (hFixed : Fixed unicode c) : c ∈ out ↔ c ∈ text := by
  rw [← List.count_pos_iff, ← List.count_pos_iff, h.count hFixed]

theorem eq_of_fixed (h : Lowers unicode text out) (hAll : ∀ c ∈ out, Fixed unicode c) : text = out := by
  induction h with
  | nil => rfl
  | @cons d image text out hImage _ ih =>
    obtain ⟨hFirst, hRest⟩ := List.forall_mem_append.mp hAll
    by_cases hHere : Fixed unicode d
    · rw [hImage.of_fixed hHere, List.singleton_append, ih hRest]
    · obtain ⟨hNonempty, hOther⟩ := hImage.of_not_fixed hHere
      obtain ⟨e, more, rfl⟩ := List.exists_cons_of_ne_nil hNonempty
      exact absurd (hFirst e List.mem_cons_self) (hOther e List.mem_cons_self)

end Lowers

/-! ## Reading the image -/

theorem fixed_of_mem {c : Char} (h : c ∈ "+-():;?@".toList) : Fixed unicode c := .inr (.inr h)

theorem isHostChar_of_not_fixed {c : Char} (h : ¬Fixed unicode c) : isHostChar c = true := by
  have hOther (d : Char) (hd : d ∈ "+-():;?@".toList) : c ≠ d := fun hSame => h (hSame ▸ fixed_of_mem hd)
  simp [isHostChar, hOther ':' (by decide), hOther ';' (by decide), hOther '?' (by decide)]

theorem isUserChar_of_not_fixed {c : Char} (h : ¬Fixed unicode c) : isUserChar c = true := by
  have hOther (d : Char) (hd : d ∈ "+-():;?@".toList) : c ≠ d := fun hSame => h (hSame ▸ fixed_of_mem hd)
  simp [isUserChar, hOther '@' (by decide), hOther ';' (by decide), hOther '?' (by decide)]

theorem isDecimal_of_not_fixed {c : Char} (h : ¬Fixed unicode c) : unicode.isDecimal c = false :=
  Bool.eq_false_iff.mpr fun hDecimal => h (.inr (.inl hDecimal))

theorem isSome_restOf (h : Lowers unicode text out) : (restOf out).isSome = (restOf text).isSome := by
  have hNewline : Fixed unicode (Char.ofNat 10) := .inl (by decide)
  cases text with
  | nil => rw [h.eq_nil_iff.mpr rfl]
  | cons c text =>
    by_cases hDelimiter : c = ';' ∨ c = '?'
    · have hFixed : Fixed unicode c := by
        rcases hDelimiter with rfl | rfl
        · exact fixed_of_mem (by decide)
        · exact fixed_of_mem (by decide)
      obtain ⟨rest, rfl, hRest⟩ := h.tail hFixed
      simp only [restOf, hRest.mem_iff hNewline]
      split <;> rfl
    · cases out with
      | nil => exact absurd (h.eq_nil_iff.mp rfl) (List.cons_ne_nil _ _)
      | cons d out =>
        have hOther : ¬(d = ';' ∨ d = '?') := by
          intro hSame
          have hFixed : Fixed unicode d := by
            rcases hSame with rfl | rfl
            · exact fixed_of_mem (by decide)
            · exact fixed_of_mem (by decide)
          obtain ⟨before, hText, -⟩ := h.head hFixed rfl
          exact hDelimiter ((List.cons.inj hText).1 ▸ hSame)
        rw [restOf, restOf, if_neg fun h => hOther h.1, if_neg fun h => hDelimiter h.1]

theorem isSome_portOf {host host' : List Char} (h : Lowers unicode text out) :
    (portOf unicode host' out).isSome = (portOf unicode host text).isSome := by
  have hColon : Fixed unicode ':' := fixed_of_mem (by decide)
  by_cases hPort : ∃ more, text = ':' :: more
  · obtain ⟨more, rfl⟩ := hPort
    obtain ⟨rest, rfl, hRest⟩ := h.tail hColon
    obtain ⟨hDigits, hBehind⟩ := hRest.span (p := unicode.isDecimal) fun c => isDecimal_of_not_fixed
    simp only [portOf, hDigits.eq_nil_iff]
    split
    · rfl
    · rw [Option.isSome_map, Option.isSome_map, isSome_restOf hBehind]
  · have hOther : ∀ more, out ≠ ':' :: more := by
      intro more hOut
      obtain ⟨before, hText, -⟩ := h.head hColon hOut
      exact hPort ⟨before, hText⟩
    have hText : portOf unicode host text = (restOf text).map fun rest => ⟨host, none, rest⟩ := by
      unfold portOf
      split
      · exact absurd ⟨_, rfl⟩ hPort
      · rfl
    have hImage : portOf unicode host' out = (restOf out).map fun rest => ⟨host', none, rest⟩ := by
      unfold portOf
      split
      · exact absurd rfl (hOther _)
      · rfl
    rw [hText, hImage, Option.isSome_map, Option.isSome_map, isSome_restOf h]

theorem isSome_hostOf (h : Lowers unicode text out) : (hostOf unicode out).isSome = (hostOf unicode text).isSome := by
  obtain ⟨hHost, hBehind⟩ := h.span (p := isHostChar) fun c => isHostChar_of_not_fixed
  simp only [hostOf, hHost.eq_nil_iff]
  split
  · rfl
  · exact isSome_portOf hBehind

theorem isSome_withUser (h : Lowers unicode text out) :
    (withUser unicode out).isSome = (withUser unicode text).isSome := by
  have hAt : Fixed unicode '@' := fixed_of_mem (by decide)
  obtain ⟨hUser, hBehind⟩ := h.span (p := isUserChar) fun c => isUserChar_of_not_fixed
  by_cases hHere : ∃ more, text.dropWhile isUserChar = '@' :: more
  · obtain ⟨more, hMore⟩ := hHere
    rw [hMore] at hBehind
    obtain ⟨rest, hRest, hLowers⟩ := hBehind.tail hAt
    simp only [withUser, hMore, hRest, hUser.eq_nil_iff]
    split
    · rfl
    · rw [Option.isSome_map, Option.isSome_map, isSome_hostOf hLowers]
  · have hOther : ∀ more, out.dropWhile isUserChar ≠ '@' :: more := by
      intro more hOut
      obtain ⟨before, hText, -⟩ := hBehind.head hAt hOut
      exact hHere ⟨before, hText⟩
    have hText : withUser unicode text = none := by
      unfold withUser
      split
      · rename_i more hMore
        exact absurd ⟨more, hMore⟩ hHere
      · rfl
    have hImage : withUser unicode out = none := by
      unfold withUser
      split
      · rename_i more hMore
        exact absurd hMore (hOther more)
      · rfl
    rw [hText, hImage]

theorem sipAddressOf_lowered (h : Lowers unicode text out) {secure : Bool}
    (hNone : sipAddressOf unicode secure text = none) : sipAddressOf unicode secure out = none := by
  have hUser := isSome_withUser h
  have hHost := isSome_hostOf h
  rw [sipAddressOf] at hNone ⊢
  split at hNone
  · nomatch hNone
  · rename_i hText
    rw [hText, Option.isSome_none, Option.isSome_eq_false_iff, Option.isNone_iff_eq_none] at hUser
    rw [Option.map_eq_none_iff.mp hNone, Option.isSome_none, Option.isSome_eq_false_iff,
      Option.isNone_iff_eq_none] at hHost
    rw [hUser, hHost]
    rfl

/-! ## What is read -/

def IsPort (unicode : Unicode) (port : Option (List Char)) : Prop :=
  ∀ digits, port = some digits → digits ≠ [] ∧ ∀ c ∈ digits, unicode.isDecimal c = true

structure SipHost.Reads (unicode : Unicode) (found : SipHost) : Prop where
  nonempty : found.host ≠ []
  host : ∀ c ∈ found.host, isHostChar c = true
  port : IsPort unicode found.port
  rest : restOf found.rest = some found.rest

def SipHost.write (found : SipHost) : List Char := found.host ++ (portText found.port ++ found.rest)

theorem takeWhile_eq_of {α : Type} {p : α → Bool} {front back : List α} (hFront : ∀ a ∈ front, p a = true)
    (hBack : ∀ a, back.head? = some a → p a = false) :
    (front ++ back).takeWhile p = front ∧ (front ++ back).dropWhile p = back := by
  have hStop : back.takeWhile p = [] ∧ back.dropWhile p = back := by
    cases back with
    | nil => exact ⟨rfl, rfl⟩
    | cons a back =>
      have hNot : ¬p a = true := by rw [hBack a rfl]; nofun
      exact ⟨List.takeWhile_cons_of_neg hNot, List.dropWhile_cons_of_neg hNot⟩
  rw [List.takeWhile_append_of_pos hFront, List.dropWhile_append_of_pos hFront, hStop.1, hStop.2, List.append_nil]
  exact ⟨rfl, rfl⟩

theorem restOf_eq_some {rest : List Char} (h : restOf text = some rest) : text = rest ∧ restOf rest = some rest := by
  cases text with
  | nil =>
    cases h
    exact ⟨rfl, rfl⟩
  | cons c text =>
    have hCopy := h
    rw [restOf] at h
    split at h
    · cases h
      exact ⟨rfl, hCopy⟩
    · nomatch h

theorem head_of_restOf {rest : List Char} (h : restOf rest = some rest) {c : Char} (hc : rest.head? = some c) :
    c = ';' ∨ c = '?' := by
  cases rest with
  | nil => nomatch hc
  | cons d rest =>
    cases Option.some.inj hc
    rw [restOf] at h
    split at h
    · rename_i hHere
      exact hHere.1
    · nomatch h

theorem isDecimal_delimiter {c : Char} (hAscii : c.toNat < 128) (hDigit : c.isDigit = false) :
    unicode.isDecimal c = false := by
  rw [unicode.decimal_ascii c hAscii, hDigit]

theorem portOf_eq_some_iff {host : List Char} {found : SipHost} : portOf unicode host text = some found ↔
    found.host = host ∧ text = portText found.port ++ found.rest ∧ IsPort unicode found.port ∧
      restOf found.rest = some found.rest := by
  constructor
  · intro h
    unfold portOf at h
    split at h
    · rename_i more
      split at h
      · nomatch h
      · rename_i hDigits
        obtain ⟨rest, hRest, rfl⟩ := Option.map_eq_some_iff.mp h
        obtain ⟨hSame, hRead⟩ := restOf_eq_some hRest
        refine ⟨rfl, ?_, ?_, hRead⟩
        · rw [portText, List.cons_append, ← hSame, List.takeWhile_append_dropWhile]
        · rintro digits hPort
          cases hPort
          exact ⟨hDigits, fun c hc => List.mem_takeWhile_imp hc⟩
    · obtain ⟨rest, hRest, rfl⟩ := Option.map_eq_some_iff.mp h
      obtain ⟨hSame, hRead⟩ := restOf_eq_some hRest
      exact ⟨rfl, hSame, nofun, hRead⟩
  · rintro ⟨rfl, rfl, hPort, hRest⟩
    obtain ⟨host, port, rest⟩ := found
    cases port with
    | none =>
      have hOther : ∀ more, rest ≠ ':' :: more := by
        rintro more rfl
        rcases head_of_restOf hRest rfl with h | h <;> nomatch h
      change portOf unicode host rest = _
      unfold portOf
      split
      · exact absurd rfl (hOther _)
      · exact congrArg (Option.map _) hRest
    | some digits =>
      obtain ⟨hNonempty, hDigits⟩ := hPort digits rfl
      have hStop : ∀ c, rest.head? = some c → unicode.isDecimal c = false := by
        intro c hc
        rcases head_of_restOf hRest hc with rfl | rfl
        · exact isDecimal_delimiter (by decide) (by decide)
        · exact isDecimal_delimiter (by decide) (by decide)
      obtain ⟨hTake, hDrop⟩ := takeWhile_eq_of hDigits hStop
      rw [portText, List.cons_append, portOf, hTake, if_neg hNonempty, hDrop]
      exact congrArg (Option.map _) hRest

theorem head_portText (port : Option (List Char)) {rest : List Char} (hRest : restOf rest = some rest) {c : Char}
    (hc : (portText port ++ rest).head? = some c) : isHostChar c = false := by
  cases port with
  | none =>
    rcases head_of_restOf hRest hc with rfl | rfl <;> rfl
  | some digits =>
    cases Option.some.inj hc
    rfl

theorem hostOf_eq_some_iff {found : SipHost} :
    hostOf unicode text = some found ↔ text = found.write ∧ found.Reads unicode := by
  constructor
  · intro h
    rw [hostOf] at h
    split at h
    · nomatch h
    · rename_i hNonempty
      obtain ⟨hHost, hBehind, hPort, hRest⟩ := portOf_eq_some_iff.mp h
      refine ⟨?_, ?_, ?_, hPort, hRest⟩
      · rw [SipHost.write, ← hBehind, hHost, List.takeWhile_append_dropWhile]
      · rwa [hHost]
      · rw [hHost]
        exact fun c hc => List.mem_takeWhile_imp hc
  · rintro ⟨rfl, hReads⟩
    obtain ⟨hTake, hDrop⟩ := takeWhile_eq_of hReads.host fun c => head_portText _ (c := c) hReads.rest
    rw [hostOf, SipHost.write, hTake, hDrop, if_neg hReads.nonempty]
    exact portOf_eq_some_iff.mpr ⟨rfl, rfl, hReads.port, hReads.rest⟩

def IsUser (user : List Char) : Prop := user ≠ [] ∧ ∀ c ∈ user, isUserChar c = true

theorem withUser_eq_some_iff {user : List Char} {found : SipHost} : withUser unicode text = some (user, found) ↔
    text = user ++ '@' :: found.write ∧ IsUser user ∧ found.Reads unicode := by
  constructor
  · intro h
    unfold withUser at h
    split at h
    · rename_i more hMore
      split at h
      · nomatch h
      · rename_i hNonempty
        obtain ⟨host, hHost, hSame⟩ := Option.map_eq_some_iff.mp h
        cases hSame
        obtain ⟨hWrite, hReads⟩ := hostOf_eq_some_iff.mp hHost
        refine ⟨?_, ⟨hNonempty, fun c hc => List.mem_takeWhile_imp hc⟩, hReads⟩
        rw [← hWrite, ← hMore, List.takeWhile_append_dropWhile]
    · nomatch h
  · rintro ⟨rfl, ⟨hNonempty, hUser⟩, hReads⟩
    have hStop : ∀ c, ('@' :: found.write).head? = some c → isUserChar c = false := by
      intro c hc
      cases Option.some.inj hc
      rfl
    obtain ⟨hTake, hDrop⟩ := takeWhile_eq_of hUser hStop
    unfold withUser
    rw [hDrop, hTake]
    exact (if_neg hNonempty).trans (congrArg (Option.map _) (hostOf_eq_some_iff.mpr ⟨rfl, hReads⟩))

/-! ## Addresses without a user -/

def Alone (host : List Char) : Prop :=
  host.takeWhile (· ≠ '@') = [] ∨ host.dropWhile (· ≠ '@') = [] ∨ host.dropWhile (· ≠ '@') = ['@']

theorem no_at_of_port {port : Option (List Char)} (hPort : IsPort unicode port) :
    ∀ c ∈ portText port, isUserChar c = true := by
  cases port with
  | none => exact fun c hc => absurd hc List.not_mem_nil
  | some digits =>
    refine List.forall_mem_cons.mpr ⟨rfl, fun c hc => ?_⟩
    have hDecimal := (hPort digits rfl).2 c hc
    have hOther (d : Char) (hAscii : d.toNat < 128) (hDigit : d.isDigit = false) : c ≠ d := by
      rintro rfl
      rw [isDecimal_delimiter hAscii hDigit] at hDecimal
      nomatch hDecimal
    simp [isUserChar, hOther '@' (by decide) (by decide), hOther ';' (by decide) (by decide),
      hOther '?' (by decide) (by decide)]

theorem isUserChar_of_host {c : Char} (hHost : isHostChar c = true) (hAt : c ≠ '@') : isUserChar c = true := by
  simp only [isHostChar, Bool.and_eq_true, decide_eq_true_eq] at hHost
  simp [isUserChar, hAt, hHost.1.2, hHost.2]

theorem withUser_eq_none_iff {found : SipHost} (hReads : found.Reads unicode) :
    withUser unicode found.write = none ↔ Alone found.host := by
  have hSplit : found.host.takeWhile (· ≠ '@') ++ found.host.dropWhile (· ≠ '@') = found.host :=
    List.takeWhile_append_dropWhile
  have hBefore : ∀ c ∈ found.host.takeWhile (· ≠ '@'), isUserChar c = true := by
    intro c hc
    exact isUserChar_of_host (hReads.host c ((List.takeWhile_sublist _).subset hc))
      (by simpa using List.mem_takeWhile_imp hc)
  cases hDrop : found.host.dropWhile (· ≠ '@') with
  | nil =>
    -- without an `@` in the host, the first delimiter of a user is that of the rest
    rw [hDrop, List.append_nil] at hSplit
    refine iff_of_true ?_ (.inr (.inl hDrop))
    cases hUser : withUser unicode found.write with
    | none => rfl
    | some read =>
      obtain ⟨user, other⟩ := read
      have hAll : ∀ c ∈ found.host ++ portText found.port, isUserChar c = true := by
        refine fun c hc => (List.mem_append.mp hc).elim (fun hHost => ?_) (no_at_of_port hReads.port c)
        rw [← hSplit] at hHost
        exact hBefore c hHost
      have hStop : ∀ c, found.rest.head? = some c → isUserChar c = false := by
        intro c hc
        rcases head_of_restOf hReads.rest hc with rfl | rfl <;> rfl
      have hSpan := (takeWhile_eq_of hAll hStop).2
      rw [List.append_assoc] at hSpan
      unfold withUser at hUser
      rw [SipHost.write, hSpan] at hUser
      split at hUser
      · rename_i more hMore
        rcases head_of_restOf hReads.rest (congrArg List.head? hMore) with h | h <;> nomatch h
      · nomatch hUser
  | cons c after =>
    have hAt : c = '@' := by
      have hNot := List.head?_dropWhile_not (· ≠ '@') found.host
      rw [hDrop] at hNot
      simpa using hNot
    subst hAt
    rw [hDrop] at hSplit
    have hText : found.write =
        found.host.takeWhile (· ≠ '@') ++ '@' :: (after ++ (portText found.port ++ found.rest)) := by
      rw [SipHost.write]
      conv_lhs => rw [← hSplit]
      simp
    have hStop : ∀ c, ('@' :: (after ++ (portText found.port ++ found.rest))).head? = some c →
        isUserChar c = false := by
      intro c hc
      cases Option.some.inj hc
      rfl
    obtain ⟨hTake, hBehind⟩ := takeWhile_eq_of hBefore hStop
    rw [← hText] at hTake hBehind
    have hWith : withUser unicode found.write = if found.host.takeWhile (· ≠ '@') = [] then none else
        (hostOf unicode (after ++ (portText found.port ++ found.rest))).map fun host =>
          (found.host.takeWhile (· ≠ '@'), host) := by
      unfold withUser
      rw [hBehind, hTake]
      rfl
    rw [hWith, Alone, hDrop]
    by_cases hFirst : found.host.takeWhile (· ≠ '@') = []
    · rw [if_pos hFirst]
      exact iff_of_true rfl (.inl hFirst)
    · rw [if_neg hFirst, Option.map_eq_none_iff]
      by_cases hAfter : after = []
      · rw [hAfter]
        refine iff_of_true ?_ (.inr (.inr rfl))
        have hNone : (portText found.port ++ found.rest).takeWhile isHostChar = [] := by
          cases hTail : portText found.port ++ found.rest with
          | nil => rfl
          | cons d tail =>
            have hStopHere := head_portText _ hReads.rest (congrArg List.head? hTail)
            exact List.takeWhile_cons_of_neg (by rw [hStopHere]; nofun)
        rw [List.nil_append, hostOf, if_pos hNone]
      · refine iff_of_false ?_ ?_
        · have hHost : ∀ c ∈ after, isHostChar c = true := fun c hc =>
            hReads.host c (hSplit ▸ List.mem_append_right _ (List.mem_cons_of_mem _ hc))
          have hRead : hostOf unicode (after ++ (portText found.port ++ found.rest)) =
              some ⟨after, found.port, found.rest⟩ :=
            hostOf_eq_some_iff.mpr ⟨rfl, hAfter, hHost, hReads.port, hReads.rest⟩
          rw [hRead]
          nofun
        · rintro (h | h | h)
          · exact hFirst h
          · nomatch h
          · exact hAfter (List.cons.inj h).2

/-! ## Addresses -/

def SipAddress.found (address : SipAddress) : SipHost := ⟨address.host, address.port, address.rest⟩

structure SipAddress.Reads (unicode : Unicode) (address : SipAddress) : Prop where
  user : ∀ user, address.user = some user → IsUser user
  found : address.found.Reads unicode
  alone : address.user = none → Alone address.host

variable {address : SipAddress}

theorem sipAddressOf_eq_some_iff {secure : Bool} : sipAddressOf unicode secure text = some address ↔
    address.secure = secure ∧ text = address.body ∧ address.Reads unicode := by
  obtain ⟨secure', user, host, port, rest⟩ := address
  constructor
  · intro h
    rw [sipAddressOf] at h
    split at h
    · rename_i found hUser
      cases h
      obtain ⟨rfl, hUser, hReads⟩ := withUser_eq_some_iff.mp hUser
      refine ⟨rfl, ?_, fun _ hSame => Option.some.inj hSame ▸ hUser, hReads, nofun⟩
      simp [SipAddress.body, userText, SipHost.write]
    · rename_i hNone
      obtain ⟨found, hFound, hSame⟩ := Option.map_eq_some_iff.mp h
      cases hSame
      obtain ⟨rfl, hReads⟩ := hostOf_eq_some_iff.mp hFound
      exact ⟨rfl, rfl, nofun, hReads, fun _ => (withUser_eq_none_iff hReads).mp hNone⟩
  · rintro ⟨rfl, rfl, hReads⟩
    cases user with
    | some user =>
      have hText : SipAddress.body ⟨secure', some user, host, port, rest⟩ =
          user ++ '@' :: SipHost.write ⟨host, port, rest⟩ := by
        simp [SipAddress.body, userText, SipHost.write]
      rw [sipAddressOf, withUser_eq_some_iff.mpr ⟨hText, hReads.user user rfl, hReads.found⟩]
    | none =>
      have hText : SipAddress.body ⟨secure', none, host, port, rest⟩ = SipHost.write ⟨host, port, rest⟩ := rfl
      have hHost : SipHost.Reads unicode ⟨host, port, rest⟩ := hReads.found
      rw [sipAddressOf, hText, (withUser_eq_none_iff hHost).mpr (hReads.alone rfl),
        hostOf_eq_some_iff.mpr ⟨rfl, hHost⟩]
      rfl

theorem schemeOf_write : schemeOf address.write = some (address.secure, address.body) := by
  obtain ⟨secure, user, host, port, rest⟩ := address
  cases secure with
  | false => rfl
  | true => rfl

theorem matchSipUri_write (hReads : address.Reads unicode) : matchSipUri unicode address.write = some address := by
  rw [matchSipUri, schemeOf_write]
  exact sipAddressOf_eq_some_iff.mpr ⟨rfl, rfl, hReads⟩

theorem startsSip_write : startsSip (unicode.lower address.write) = true := by
  have hLowers := lowers_lower unicode address.write
  have hScheme : ∀ c ∈ schemeText address.secure ++ [':'], c.toNat < 128 := by
    cases address.secure with
    | false => exact Text.forall_of_all (by decide)
    | true => exact Text.forall_of_all (by decide)
  have hText : address.write = (schemeText address.secure ++ [':']) ++ address.body := by
    simp [SipAddress.write]
  rw [hText] at hLowers ⊢
  obtain ⟨first, second, hOut, hFirst, -⟩ := hLowers.split
  rw [hOut, hFirst.eq_of_ascii hScheme]
  cases address.secure with
  | false => rfl
  | true => rfl

end

end FastVoice.PhoneNumbers
