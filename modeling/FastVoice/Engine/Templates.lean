import FastVoice.Runtime.Outcome
import FastVoice.Python.JsonPaths

/-! # Rendering templates

`render_template` of a string: the placeholders from the left, each replaced by a built-in value, by a value
of the context or by its fallback. A built-in variable without a time zone of its own takes the first zone
that the template names, and raises if there is none of that name.
-/
namespace FastVoice.Engine
open Python

/-- What the language and the host supply: Unicode case, and the wall clock and weekday of each zone of the
time zone database. -/
structure Host where
  lower : String → String
  title : String → String
  zone : String → Option (String × String)

inductive RenderError where
  | zoneInfoNotFoundError (key : String)
  deriving DecidableEq

structure TemplateVariable where
  path : String
  filterName : Option String
  filterValue : Option String
  deriving DecidableEq

def isPathChar (c : Char) : Bool := c ≠ '|' && c ≠ '}' && !Text.isSpace c

def stripped (text : List Char) : String := Text.strip (String.ofList text)

def filterAt (path : String) : List Char → Option (TemplateVariable × List Char)
  | '}' :: '}' :: tail => some (⟨path, none, none⟩, tail)
  | '|' :: rest =>
    let name := rest.takeWhile fun c => c ≠ ':' && c ≠ '}'
    if name = [] then none
    else match rest.dropWhile fun c => c ≠ ':' && c ≠ '}' with
      | '}' :: '}' :: tail => some (⟨path, some (stripped name), none⟩, tail)
      | ':' :: rest =>
        let value := rest.takeWhile (· ≠ '}')
        if value = [] then none
        else match rest.dropWhile (· ≠ '}') with
          | '}' :: '}' :: tail => some (⟨path, some (stripped name), some (stripped value)⟩, tail)
          | _ => none
      | _ => none
  | _ => none

def variableAt : List Char → Option (TemplateVariable × List Char)
  | '{' :: '{' :: rest =>
    let text := rest.dropWhile Text.isSpace
    let path := text.takeWhile isPathChar
    if path = [] then none
    else filterAt (String.ofList path) ((text.dropWhile isPathChar).dropWhile Text.isSpace)
  | _ => none

/-- The text behind its first `skip` characters, with its placeholders found from the left. -/
def segmentsFrom : Nat → List Char → List (Char ⊕ TemplateVariable)
  | _, [] => []
  | skip + 1, _ :: text => segmentsFrom skip text
  | 0, c :: text =>
    match variableAt (c :: text) with
    | some (found, tail) => .inr found :: segmentsFrom (text.length - tail.length) text
    | none => .inl c :: segmentsFrom 0 text

def segments (template : String) : List (Char ⊕ TemplateVariable) := segmentsFrom 0 template.toList

/-- The zone of a placeholder `current_time_<TZ>` or `current_weekday_<TZ>` at the head of the text. -/
def timezoneAt : List Char → Option String
  | '{' :: '{' :: rest =>
    let text := rest.dropWhile Text.isSpace
    ["current_time_", "current_weekday_"].findSome? fun name =>
      if name.toList.isPrefixOf text then
        let zone := (text.drop name.length).takeWhile isPathChar
        if zone = [] then none else some (String.ofList zone)
      else none
  | _ => none

def extractTimezoneFromTemplate (template : String) : Option String :=
  template.toList.tails.findSome? timezoneAt

section

variable (host : Host)

/-- `ZoneInfo(default_tz) if default_tz else ZoneInfo("UTC")`, with the clock there. -/
def defaultZone (defaultTz : Option String) : Except RenderError (String × String) :=
  match host.zone (defaultTz.getD "UTC") with
  | some clock => .ok clock
  | none => .error (.zoneInfoNotFoundError (defaultTz.getD "UTC"))

def usesDefaultZone (path : String) : Bool := path = "current_time" || path = "current_weekday"

def afterPrefix (name path : String) : Option String :=
  if name.toList.isPrefixOf path.toList then some (String.ofList (path.toList.drop name.length)) else none

def resolveBuiltinVariable (path : String) (defaultTz : Option String) :
    Except RenderError (Option String) :=
  if path = "current_time" then (defaultZone host defaultTz).map fun clock => some clock.1
  else if path = "current_weekday" then (defaultZone host defaultTz).map fun clock => some clock.2
  else match afterPrefix "current_time_" path with
    | some key => .ok ((host.zone key).map Prod.fst)
    | none => .ok ((afterPrefix "current_weekday_" path).bind fun key => (host.zone key).map Prod.snd)

def getNestedValue (value : Json) (path : String) : Json :=
  if path = "" then value
  else (path.toList.splitOn '.').foldl (fun value key => value.get (String.ofList key)) value

/-- The value in the context, also without the prefix `initial_context.`. -/
def contextValue (context : Json) (path : String) : Json :=
  match getNestedValue context path with
  | .null => ((afterPrefix "initial_context." path).map (getNestedValue context)).getD .null
  | value => value

def isBlank : Json → Bool
  | .null => true
  | .str s => s = ""
  | _ => false

def fallback (found : TemplateVariable) (name : String) : String :=
  if name = "fallback" then found.filterValue.getD (host.title found.path) else name

def shownValue : Json → String
  | .null => ""
  | .bool true => "True"
  | .bool false => "False"
  | .number n => String.ofList n.text
  | .str s => s
  | value => String.ofList value.dumps

def resolveTemplateValue (found : TemplateVariable) (context : Json) (defaultTz : Option String) :
    Except RenderError String :=
  (resolveBuiltinVariable host found.path defaultTz).map fun builtin =>
    match builtin with
    | some value => value
    | none =>
      match found.filterName, isBlank (contextValue context found.path) with
      | some name, true => fallback host found name
      | _, _ => shownValue (contextValue context found.path)

def renderSegment (context : Json) (defaultTz : Option String) :
    Char ⊕ TemplateVariable → Except RenderError (List Char)
  | .inl c => .ok [c]
  | .inr found => (resolveTemplateValue host found context defaultTz).map String.toList

/-- A backslash with an `n` behind it becomes a line break. -/
def replaceEscapedNewlines (text : List Char) : List Char :=
  Replacing.replace [Json.backslash, 'n'] [Char.ofNat 10] text

def renderTemplate (template : String) (context : Json) : Except RenderError String :=
  ((segments template).mapM (renderSegment host context (extractTimezoneFromTemplate template))).map
    fun parts => String.ofList (replaceEscapedNewlines parts.flatten)

end

section

variable {host : Host}

/-- Each variable that needs the template's zone finds it in the database. -/
def Renders (host : Host) (template : String) : Prop :=
  ∀ found, .inr found ∈ segments template → usesDefaultZone found.path = true →
    (host.zone ((extractTimezoneFromTemplate template).getD "UTC")).isSome = true

def rendersBool (host : Host) (template : String) : Bool :=
  (segments template).all fun
    | .inl _ => true
    | .inr found => !usesDefaultZone found.path ||
        (host.zone ((extractTimezoneFromTemplate template).getD "UTC")).isSome

theorem rendersBool_iff {template : String} : rendersBool host template = true ↔ Renders host template := by
  rw [rendersBool, List.all_eq_true]
  constructor
  · intro h found hFound hUses
    simpa [hUses] using h (.inr found) hFound
  · intro h segment hSegment
    cases segment with
    | inl c => rfl
    | inr found =>
      cases hUses : usesDefaultZone found.path with
      | false => simp [hUses]
      | true => simpa [hUses] using h found hSegment hUses

instance (template : String) : Decidable (Renders host template) :=
  decidable_of_iff _ rendersBool_iff

theorem isOk_resolveBuiltinVariable {path : String} {defaultTz : Option String} :
    (resolveBuiltinVariable host path defaultTz).isOk = true ↔
      (usesDefaultZone path = true → (host.zone (defaultTz.getD "UTC")).isSome = true) := by
  unfold resolveBuiltinVariable
  split
  · rename_i hPath
    cases hZone : host.zone (defaultTz.getD "UTC") <;>
      simp [defaultZone, usesDefaultZone, hZone, hPath, Except.map, Except.isOk, Except.toBool]
  · split
    · rename_i hPath
      cases hZone : host.zone (defaultTz.getD "UTC") <;>
        simp [defaultZone, usesDefaultZone, hZone, hPath, Except.map, Except.isOk, Except.toBool]
    · rename_i hTime hWeekday
      have hUses : usesDefaultZone path = false := by simp [usesDefaultZone, hTime, hWeekday]
      rw [hUses]
      split <;> simp [Except.isOk, Except.toBool]

theorem isOk_renderSegment {context : Json} {defaultTz : Option String} {segment : Char ⊕ TemplateVariable} :
    (renderSegment host context defaultTz segment).isOk = true ↔ ∀ found, segment = .inr found →
      usesDefaultZone found.path = true → (host.zone (defaultTz.getD "UTC")).isSome = true := by
  cases segment with
  | inl c => simp [renderSegment, Except.isOk, Except.toBool]
  | inr found =>
    rw [renderSegment, Outcome.isOk_map, resolveTemplateValue, Outcome.isOk_map,
      isOk_resolveBuiltinVariable]
    simp

theorem isOk_renderTemplate {template : String} {context : Json} :
    (renderTemplate host template context).isOk = true ↔ Renders host template := by
  rw [renderTemplate, Outcome.isOk_map, Outcome.isOk_mapM]
  simp only [isOk_renderSegment]
  constructor
  · exact fun h found hFound => h (.inr found) hFound found rfl
  · rintro h _ hSegment found rfl
    exact h found hSegment

end

end FastVoice.Engine
