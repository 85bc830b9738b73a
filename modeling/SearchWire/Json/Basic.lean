import SearchWire.Entries
import SearchWire.Number.Binary

/-!
# JSON values

Integers and floats are different values, as they are different texts.
Objects keep the order of their members but compare without it.
-/

namespace SearchWire

inductive Json where
  | null
  | bool (value : Bool)
  | int (value : Int)
  | float (value : Double)
  | string (text : String)
  | array (items : List Json)
  | object (members : List (String × Json))
deriving Inhabited

namespace Json

def single (key : String) (value : Json) : Json := .object [(key, value)]

def ofNat (n : Nat) : Json := .int n

def isNull : Json → Bool
  | .null => true
  | _ => false

def isNumber : Json → Bool
  | .int _ => true
  | .float _ => true
  | _ => false

mutual
/-- Equality of values; members are looked up by key. -/
def beq : Json → Json → Bool
  | .null, .null => true
  | .bool a, .bool b => a == b
  | .int a, .int b => a == b
  | .float a, .float b => a.numEq b
  | .string a, .string b => a == b
  | .array as, .array bs => beqItems as bs
  | .object as, .object bs => as.length == bs.length && beqMembers as bs
  | _, _ => false
def beqItems : List Json → List Json → Bool
  | [], [] => true
  | a :: as, b :: bs => beq a b && beqItems as bs
  | _, _ => false
def beqMembers : List (String × Json) → List (String × Json) → Bool
  | [], _ => true
  | (key, a) :: as, bs =>
    (match Entries.get? key bs with
      | some b => beq a b
      | none => false) && beqMembers as bs
end

instance : BEq Json := ⟨beq⟩

end Json

end SearchWire
