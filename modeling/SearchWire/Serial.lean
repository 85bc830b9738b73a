import SearchWire.Error
import SearchWire.Expr.Basic
import SearchWire.Json.Text

/-!
# Serialised values

Values of a general data model, as programs hand them over: numbers of
several widths, options, sequences, maps with keys of any kind, and units,
tuples and records with or without a name of their own, alone or as a
variant among others. They become finished JSON. Since JSON has no text
for infinities and for what is not a number, these would be lost as nulls,
so a value is searched for them first.
-/

namespace SearchWire

inductive Serial where
  | bool (value : Bool)
  | int (value : Int)
  | single (value : Single)
  | double (value : Double)
  | char (value : Char)
  | string (text : String)
  | bytes (bytes : List Nat)
  | none
  | some (content : Serial)
  | unit
  | namedUnit
  | unitVariant (name : String)
  | newtype (content : Serial)
  | newtypeVariant (name : String) (content : Serial)
  | seq (items : List Serial)
  | tuple (items : List Serial)
  | namedTuple (items : List Serial)
  | tupleVariant (name : String) (items : List Serial)
  | map (entries : List (Serial × Serial))
  | record (fields : List (String × Serial))
  | recordVariant (name : String) (fields : List (String × Serial))

namespace Serial

def refusal? {f : Format} (x : Binary f) : Option String :=
  if x.isFinite then Option.none else Option.some (x.text ++ " is not a finite number")

mutual
/-- The first float that JSON cannot hold, a key before its value. Only
named fields on the way to it are told. -/
def notFinite? : Serial → Option String
  | .single value => refusal? value
  | .double value => refusal? value
  | .some content => notFinite? content
  | .newtype content => notFinite? content
  | .newtypeVariant _ content => notFinite? content
  | .seq items => itemsNotFinite? items
  | .tuple items => itemsNotFinite? items
  | .namedTuple items => itemsNotFinite? items
  | .tupleVariant _ items => itemsNotFinite? items
  | .map entries => entriesNotFinite? entries
  | .record fields => fieldsNotFinite? fields
  | .recordVariant _ fields => fieldsNotFinite? fields
  | _ => Option.none
def itemsNotFinite? : List Serial → Option String
  | [] => Option.none
  | item :: rest => (notFinite? item).or (itemsNotFinite? rest)
def entriesNotFinite? : List (Serial × Serial) → Option String
  | [] => Option.none
  | (key, value) :: rest => ((notFinite? key).or (notFinite? value)).or (entriesNotFinite? rest)
def fieldsNotFinite? : List (String × Serial) → Option String
  | [] => Option.none
  | (name, value) :: rest =>
    ((notFinite? value).map (name ++ ": " ++ ·)).or (fieldsNotFinite? rest)
end

def ofInt (value : Int) : Result Json :=
  if -Int.pow 2 63 ≤ value ∧ value < Int.pow 2 64 then .ok (.int value)
  else .error (.serialization "number out of range")

/-- A float as a value of its own; what JSON has no text for is null. -/
def ofFloat {f : Format} (x : Binary f) (widened : Double) : Json := if x.isFinite then .float widened else .null

/-- The text of a key: strings and what has one obvious text. -/
def keyText : Serial → Result String
  | .bool true => .ok "true"
  | .bool false => .ok "false"
  | .int value => .ok (toString value)
  | .single value => .ok value.text
  | .double value => .ok value.text
  | .char value => .ok (String.singleton value)
  | .string text => .ok text
  | .unitVariant name => .ok name
  | .newtype content => keyText content
  | _ => .error (.serialization "key must be a string")

mutual
/-- The JSON of a value; a variant with content is an object of one member. -/
def json : Serial → Result Json
  | .bool value => .ok (.bool value)
  | .int value => ofInt value
  | .single value => .ok (ofFloat value value.convert)
  | .double value => .ok (ofFloat value value)
  | .char value => .ok (.string (String.singleton value))
  | .string text => .ok (.string text)
  | .bytes values => .ok (.array (values.map Json.ofNat))
  | .none => .ok .null
  | .some content => json content
  | .unit => .ok .null
  | .namedUnit => .ok .null
  | .unitVariant name => .ok (.string name)
  | .newtype content => json content
  | .newtypeVariant name content => do return .single name (← json content)
  | .seq items => do return .array (← itemsJson items)
  | .tuple items => do return .array (← itemsJson items)
  | .namedTuple items => do return .array (← itemsJson items)
  | .tupleVariant name items => do return .single name (.array (← itemsJson items))
  | .map entries => do return .object (Entries.ofPairs (← entriesJson entries))
  | .record fields => do return .object (Entries.ofPairs (← fieldsJson fields))
  | .recordVariant name fields => do return .single name (.object (Entries.ofPairs (← fieldsJson fields)))
def itemsJson : List Serial → Result (List Json)
  | [] => .ok []
  | item :: rest => do return (← json item) :: (← itemsJson rest)
def entriesJson : List (Serial × Serial) → Result (List (String × Json))
  | [] => .ok []
  | (key, value) :: rest => do return (← keyText key, ← json value) :: (← entriesJson rest)
def fieldsJson : List (String × Serial) → Result (List (String × Json))
  | [] => .ok []
  | (name, value) :: rest => do return (name, ← json value) :: (← fieldsJson rest)
end

end Serial

def Expr.ofSerial (value : Serial) : Result Expr :=
  match value.notFinite? with
  | some reason => .error (.malformedHere reason)
  | none => do return .raw (← value.json)

end SearchWire
