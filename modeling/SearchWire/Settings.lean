import SearchWire.Keyword

/-!
# Settings

How deep a request may nest, and what an index does with document types
that it has not been told of. Both are read from JSON objects, where members
that are not known are passed over, or from arrays with the values in order.
-/

namespace SearchWire

inductive DepthProfile where
  | shallow
  | standard
  | deep
deriving DecidableEq

structure Config where
  maxDepth : Nat
deriving DecidableEq

structure IndexSettings where
  name : String
  /-- Unknown document types resolve to schema-less ones. -/
  dynamicDocuments : Bool
  config : Config
deriving DecidableEq

namespace DepthProfile

def text : DepthProfile → String
  | .shallow => "shallow"
  | .standard => "standard"
  | .deep => "deep"

def maxDepth : DepthProfile → Nat
  | .shallow => 32
  | .standard => 128
  | .deep => 160

def all : List DepthProfile := [.shallow, .standard, .deep]

def ofText? (text : String) : Option DepthProfile := all.find? (·.text == text)

def ofLiteral? (literal : Json.Literal) : Option DepthProfile := literal.word?.bind ofText?

end DepthProfile

def deepMaxDepth : Nat := DepthProfile.deep.maxDepth

namespace Json.Literal

def nat? : Literal → Option Nat
  | .number numeral =>
    match numeral.value? with
    | some (.int n) => if 0 ≤ n then some n.toNat else none
    | _ => none
  | _ => none

def bool? : Literal → Option Bool
  | .bool value => some value
  | _ => none

def text? : Literal → Option String
  | .string codes => codes.text?
  | _ => none

/-- The values under each of some names; an array gives them in order. A
name may not occur twice, and an array may not be longer than the names. -/
def fields? (names : List String) : Literal → Option (List (Option Literal))
  | .array items => if names.length < items.length then none else some (names.mapIdx fun i _ => items[i]?)
  | .object members => do
    let members ← members.mapM fun (codes, literal) => codes.text?.map (·, literal)
    names.mapM fun name =>
      match members.filter (·.1 == name) with
      | [] => some none
      | [(_, literal)] => some (some literal)
      | _ => none
  | _ => none

/-- The value of a field, or what stands for it where it is left out. -/
def orElse {α : Type} (read : Literal → Option α) (missing : Option α) : Option Literal → Option α
  | some literal => read literal
  | none => missing

end Json.Literal

namespace Config

def default : Config := ⟨DepthProfile.standard.maxDepth⟩

instance : Inhabited Config := ⟨default⟩

def withProfile (_ : Config) (profile : DepthProfile) : Config := ⟨profile.maxDepth⟩

def withMaxDepth (_ : Config) (maxDepth : Nat) : Config := ⟨maxDepth⟩

def json (config : Config) : Json := .object [("max_depth", .int config.maxDepth)]

def ofLiteral? (literal : Json.Literal) : Option Config := do
  match ← literal.fields? ["max_depth"] with
  | [maxDepth] => return ⟨← Json.Literal.orElse Json.Literal.nat? (some default.maxDepth) maxDepth⟩
  | _ => none

end Config

namespace IndexSettings

def named (name : String) : IndexSettings := ⟨name, true, .default⟩

def withDynamicDocuments (settings : IndexSettings) (enabled : Bool) : IndexSettings :=
  { settings with dynamicDocuments := enabled }

def withConfig (settings : IndexSettings) (config : Config) : IndexSettings :=
  { settings with config }

def json (settings : IndexSettings) : Json :=
  .object [("name", .string settings.name), ("dynamic_documents", .bool settings.dynamicDocuments),
    ("compiler", settings.config.json)]

def ofLiteral? (literal : Json.Literal) : Option IndexSettings := do
  match ← literal.fields? ["name", "dynamic_documents", "compiler"] with
  | [name, dynamicDocuments, config] =>
    return {
      name := ← Json.Literal.orElse Json.Literal.text? none name
      dynamicDocuments := ← Json.Literal.orElse Json.Literal.bool? (some true) dynamicDocuments
      config := ← Json.Literal.orElse Config.ofLiteral? (some .default) config }
  | _ => none

end IndexSettings

end SearchWire
