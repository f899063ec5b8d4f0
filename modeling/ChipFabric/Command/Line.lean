/-
The command line. Options may stand before the request and after it, and
where both places give one, the later place counts: its overrides replace
the earlier ones as a whole. A switch that takes a value takes it from the
same argument (after `=`, or directly after a letter) or from the next one,
which must not look like a switch; `--` ends the switches. In one place
every switch but the override may stand once.
-/
import ChipFabric.Text.Numeral

namespace ChipFabric.Command

-- =========================================================== requests

inductive Plane where
  | narrow
  | wide
  deriving DecidableEq, Repr

inductive Request where
  /-- The address map, for reading or as JSON. -/
  | map (asJson : Bool)
  /-- The route of an address. -/
  | route (addr : Nat) (plane : Plane)
  | properties
  deriving DecidableEq, Repr

/-- The options that every request takes. -/
structure Options where
  config : Option String
  /-- Overrides as `name=value`. -/
  overrides : List String
  binary : Option String
  deriving DecidableEq, Repr

/-- A command line that was understood. -/
structure Invocation where
  options : Options
  request : Request
  deriving DecidableEq, Repr

-- =========================================================== switches

inductive Switch where
  | config
  | property
  | binary
  | verbose
  | json
  | plane
  deriving DecidableEq, Repr

namespace Switch

/-- The switch of that name, which stands after two hyphens. -/
def ofName? : String → Option Switch
  | "config" => some config
  | "property" => some property
  | "binary" => some binary
  | "verbose" => some verbose
  | "json" => some json
  | "plane" => some plane
  | _ => none

/-- The switch of that letter, which stands after one hyphen. -/
def ofLetter? : Char → Option Switch
  | 'p' => some property
  | 'v' => some verbose
  | _ => none

def takesValue : Switch → Bool
  | config | property | binary | plane => true
  | verbose | json => false

/-- The switches that stand anywhere. -/
def everywhere : List Switch := [config, property, binary, verbose]

end Switch

/-- A switch as given, with its value if it takes one. -/
abbrev Setting := Switch × String

/-- One argument by itself. -/
inductive Piece where
  | operand
  | endOfSwitches
  /-- Switches, the last of them perhaps still without its value. -/
  | switches (settings : List Setting) (open_ : Option Switch)

/-- Switches written as letters after one hyphen. -/
def ofLetters? (known : List Switch) : List Char → Option Piece
  | [] => some (.switches [] none)
  | letter :: rest =>
    match (Switch.ofLetter? letter).filter (· ∈ known) with
    | none => none
    | some s =>
      if s.takesValue then
        match rest with
        | [] => some (.switches [] (some s))
        | '=' :: value => some (.switches [(s, String.ofList value)] none)
        | value => some (.switches [(s, String.ofList value)] none)
      else
        match ofLetters? known rest with
        | some (.switches settings open_) =>
          some (.switches ((s, "") :: settings) open_)
        | _ => none

/-- A switch written by name after two hyphens. -/
def ofLongName? (known : List Switch) (cs : List Char) : Option Piece :=
  match (Switch.ofName? (String.ofList (cs.takeWhile (· ≠ '=')))).filter
    (· ∈ known) with
  | none => none
  | some s =>
    match cs.dropWhile (· ≠ '='), s.takesValue with
    | [], true => some (.switches [] (some s))
    | _ :: value, true => some (.switches [(s, String.ofList value)] none)
    | [], false => some (.switches [(s, "")] none)
    | _ :: _, false => none

/-- What an argument is by itself; nothing, if it looks like a switch and is
none that is known. -/
def piece? (known : List Switch) (arg : String) : Option Piece :=
  match arg.toList with
  | ['-', '-'] => some .endOfSwitches
  | '-' :: '-' :: name => ofLongName? known name
  | ['-'] => some .operand
  | '-' :: letters => ofLetters? known letters
  | _ => some .operand

/-- An argument that may be the value of the switch before it. -/
def isValue (arg : String) : Bool :=
  match arg.toList with
  | '-' :: _ :: _ => false
  | _ => true

/-- The settings and the operands of one place of the command line. -/
structure Place where
  settings : List Setting
  operands : List String

/-- Reads one place. With `single` the first operand ends it and all that
follows is left among the operands. -/
def readPlace? (known : List Switch) (single : Bool) : List String →
    Option Place
  | [] => some ⟨[], []⟩
  | arg :: rest =>
    match piece? known arg with
    | none => none
    | some .operand =>
      if single then some ⟨[], arg :: rest⟩
      else (readPlace? known single rest).map fun p =>
        ⟨p.settings, arg :: p.operands⟩
    | some .endOfSwitches => if single then none else some ⟨[], rest⟩
    | some (.switches settings none) =>
      (readPlace? known single rest).map fun p =>
        ⟨settings ++ p.settings, p.operands⟩
    | some (.switches settings (some s)) =>
      match rest with
      | [] => none
      | value :: rest =>
        if isValue value then
          (readPlace? known single rest).map fun p =>
            ⟨settings ++ (s, value) :: p.settings, p.operands⟩
        else none

-- ========================================================= invocation

namespace Place

def valuesOf (place : Place) (s : Switch) : List String :=
  (place.settings.filter (·.1 = s)).map (·.2)

/-- Every switch but the override stands at most once. -/
def IsSingle (place : Place) : Prop :=
  ((place.settings.map (·.1)).filter (· ≠ .property)).Nodup

instance (place : Place) : Decidable place.IsSingle :=
  inferInstanceAs (Decidable (List.Nodup _))

/-- The paths among the settings are not empty. -/
def NamesFiles (place : Place) : Prop :=
  ∀ setting ∈ place.settings, setting.1 = .config
    ∨ setting.1 = .binary → setting.2 ≠ ""

instance (place : Place) : Decidable place.NamesFiles :=
  inferInstanceAs (Decidable (∀ setting ∈ place.settings, _))

end Place

/-- The switches that only a request of that name takes. -/
def requestSwitches? : String → Option (List Switch)
  | "map" => some [.json]
  | "route" => some [.plane]
  | "properties" => some []
  | _ => none

/-- The plane of that name; the narrow one when none is given. -/
def plane? : List String → Option Plane
  | [] => some .narrow
  | ["narrow"] => some .narrow
  | ["wide"] => some .wide
  | _ => none

/-- The request of that name with what stands in its place. -/
def request? (name : String) (place : Place) : Option Request :=
  match name, place.operands with
  | "map", [] => some (.map (place.valuesOf .json ≠ []))
  | "route", [addr] => do
    return .route (← Numeral.word? addr).toNat
      (← plane? (place.valuesOf .plane))
  | "properties", [] => some .properties
  | _, _ => none

def options (before after : Place) : Options :=
  let overrides := after.valuesOf .property
  { config :=
      (after.valuesOf .config).head? <|> (before.valuesOf .config).head?
    overrides :=
      if overrides = [] then before.valuesOf .property else overrides
    binary :=
      (after.valuesOf .binary).head? <|> (before.valuesOf .binary).head? }

def invocation? (args : List String) : Option Invocation := do
  let before ← readPlace? Switch.everywhere true args
  match before.operands with
  | [] => none
  | name :: rest =>
    let after ← readPlace? (Switch.everywhere ++ (← requestSwitches? name))
      false rest
    if before.IsSingle ∧ before.NamesFiles ∧ after.IsSingle
      ∧ after.NamesFiles then
      return {
        options := options before after
        request := ← request? name after }
    none

end ChipFabric.Command
