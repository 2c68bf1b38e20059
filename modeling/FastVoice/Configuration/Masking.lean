import FastVoice.Python.JsonPaths

/-! # Masked secrets

What the API shows of a stored secret, and how a masked value is recognised when it comes back. A secret
is a string or a list of strings.
-/
namespace FastVoice.Configuration
open Python Json

def visibleChars : Nat := 4

def maskChar : Char := '*'

def maskMarker : List Char := "***".toList

def serviceSecretFields : List String := ["api_key", "credentials", "aws_access_key", "aws_secret_key"]

def modelOverrideFields : List String := ["llm", "tts", "stt", "realtime"]

def maskKey (realKey : String) : String :=
  let key := realKey.toList
  if key.length ≤ visibleChars then
    String.ofList (List.replicate key.length maskChar)
  else
    String.ofList (List.replicate (key.length - visibleChars) maskChar ++
      key.drop (key.length - visibleChars))

def maskSecretValue : Json → Json
  | .arr items => .arr (items.map fun item => (item.text?.map fun k => .str (maskKey k)).getD item)
  | .str k => .str (maskKey k)
  | value => value

def marked (key : String) : Bool := decide (maskMarker <:+: key.toList)

def containsMaskedKey : Json → Bool
  | .arr items => items.any fun item => item.text?.any marked
  | .str k => marked k
  | _ => false

def isMaskOf (masked realKey : String) : Bool := maskKey realKey = masked

def keyList : Json → List String
  | .arr items => items.filterMap text?
  | .str k => [k]
  | _ => []

/-- The loop over the incoming keys; `used` holds the positions that have been given out. -/
def resolveKeys (existing : List String) (used : List Nat) : List String → List String
  | [] => []
  | key :: incoming =>
    match existing.zipIdx.find? fun real => decide (real.2 ∉ used) && isMaskOf key real.1 with
    | some real => real.1 :: resolveKeys existing (real.2 :: used) incoming
    | none => key :: resolveKeys existing used incoming

def resolveMaskedApiKeys (incoming existing : Json) : Json :=
  match incoming, existing with
  | .str key, .str real => if isMaskOf key real then .str real else .str key
  | _, _ => .arr ((resolveKeys (keyList existing) [] (keyList incoming)).map .str)

def IsText (value : Json) : Prop := (∃ k, value = .str k) ∨ ∃ ks : List String, value = .arr (ks.map .str)

theorem maskSecretValue_keys (ks : List String) :
    maskSecretValue (.arr (ks.map .str)) = .arr ((ks.map maskKey).map .str) := by
  simp [maskSecretValue, text?, Function.comp_def]

theorem length_maskKey (k : String) : (maskKey k).toList.length = k.toList.length := by
  simp only [maskKey]
  split
  · simp
  · rename_i h
    have hLong : visibleChars < k.toList.length := Nat.lt_of_not_le h
    rw [String.toList_ofList, List.length_append, List.length_replicate, List.length_drop]
    omega

theorem maskKey_ne_empty {k : String} (h : k ≠ "") : maskKey k ≠ "" := by
  intro hMask
  have hLength := length_maskKey k
  rw [hMask] at hLength
  exact h (String.toList_inj.mp (List.length_eq_zero_iff.mp hLength.symm))

theorem truthy_maskSecretValue {value : Json} (hText : IsText value) (h : value.truthy = true) :
    (maskSecretValue value).truthy = true := by
  obtain ⟨k, rfl⟩ | ⟨ks, rfl⟩ := hText
  · have hNe : k ≠ "" := by simpa [truthy] using h
    simpa [maskSecretValue, truthy] using maskKey_ne_empty hNe
  · rw [maskSecretValue_keys]
    simpa [truthy] using h

theorem resolveKeys_masks (done rest : List String) (used : List Nat)
    (hUsed : ∀ i, i ∈ used ↔ i < done.length) :
    resolveKeys (done ++ rest) used (rest.map maskKey) = rest := by
  induction rest generalizing done used with
  | nil => rfl
  | cons key rest ih =>
    have hBefore : (done.zipIdx.find? fun real => decide (real.2 ∉ used) && isMaskOf (maskKey key) real.1) =
        none := by
      rw [List.find?_eq_none]
      rintro ⟨real, i⟩ hReal hFree
      have hLt : i < done.length := by simpa using List.snd_lt_of_mem_zipIdx hReal
      simp [(hUsed i).mpr hLt] at hFree
    have hHere : ((done ++ key :: rest).zipIdx.find? fun real =>
        decide (real.2 ∉ used) && isMaskOf (maskKey key) real.1) = some (key, done.length) := by
      have hFree : done.length ∉ used := fun hMem => Nat.lt_irrefl _ ((hUsed _).mp hMem)
      rw [List.zipIdx_append, List.find?_append, hBefore]
      simp [isMaskOf, hFree]
    rw [List.map_cons, resolveKeys, hHere]
    have hNext := ih (done ++ [key]) (done.length :: used) (by
      intro i
      rw [List.mem_cons, hUsed, List.length_append, List.length_singleton]
      omega)
    rw [List.append_assoc, List.singleton_append] at hNext
    exact congrArg (key :: ·) hNext

theorem resolveMaskedApiKeys_mask {value : Json} (h : IsText value) :
    resolveMaskedApiKeys (maskSecretValue value) value = value := by
  obtain ⟨k, rfl⟩ | ⟨ks, rfl⟩ := h
  · simp [resolveMaskedApiKeys, maskSecretValue, isMaskOf]
  · have hKeys : ∀ keys : List String, keyList (.arr (keys.map .str)) = keys := by
      intro keys
      simp [keyList, text?, List.filterMap_map, Function.comp_def]
    rw [maskSecretValue_keys]
    show Json.arr ((resolveKeys (keyList (.arr (ks.map .str))) []
      (keyList (.arr ((ks.map maskKey).map .str)))).map .str) = _
    rw [hKeys, hKeys]
    have hAll := resolveKeys_masks [] ks [] (by simp)
    rw [List.nil_append] at hAll
    rw [hAll]

end FastVoice.Configuration
